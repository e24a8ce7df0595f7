import Colloquy.Proofs.Binary.Base64
import Colloquy.Wire.Embedding
import Mathlib.Data.List.Basic

/-! # Embeddings decoded

What the vectors of an answer stand for, and what becomes of them.  `WrittenVector.Spells` says what
a written vector stands for, and `EmbeddingReply.DecodedTo` that an answer has each vector once, in
its place.  The main statement is `EmbeddingReply.toResponse_decoded`. -/

namespace Colloquy.Wire

/-! ## Packed elements -/

/-- The bits of a word that is put together from four bytes, the lowest first. -/
theorem getLsbD_word (a b c d : UInt8) (i : Nat) :
    (a.toUInt32 ||| b.toUInt32 <<< 8 ||| c.toUInt32 <<< 16 |||
      d.toUInt32 <<< 24).toBitVec.getLsbD i =
      if i < 8 then a.toBitVec.getLsbD i
      else if i < 16 then b.toBitVec.getLsbD (i - 8)
      else if i < 24 then c.toBitVec.getLsbD (i - 16)
      else d.toBitVec.getLsbD (i - 24) := by
  have beyond : ∀ (n : UInt8) j, 8 ≤ j → n.toBitVec.getLsbD j = false :=
    fun n j => BitVec.getLsbD_of_ge n.toBitVec j
  simp only [UInt32.toBitVec_or, UInt32.toBitVec_shiftLeft, UInt8.toBitVec_toUInt32,
    UInt32.toBitVec_ofNat, BitVec.shiftLeft_eq', BitVec.toNat_umod, BitVec.toNat_ofNat,
    BitVec.ofNat_eq_ofNat, Nat.reducePow, Nat.reduceMod, BitVec.getLsbD_or,
    BitVec.getLsbD_shiftLeft, BitVec.getLsbD_setWidth]
  grind

/-- The bits of the lowest byte of a word. -/
theorem getLsbD_toUInt8 (n : UInt32) (i : Nat) :
    n.toUInt8.toBitVec.getLsbD i = (decide (i < 8) && n.toBitVec.getLsbD i) := by
  rw [UInt32.toBitVec_toUInt8, BitVec.getLsbD_setWidth]

/-- The bits of a word that is shifted down. -/
theorem getLsbD_shiftRight (n : UInt32) {k : Nat} (small : k < 32) (i : Nat) :
    (n >>> UInt32.ofNat k).toBitVec.getLsbD i = n.toBitVec.getLsbD (k + i) := by
  simp [Nat.mod_eq_of_lt small]

/-- **A word is put together again from its bytes.** -/
theorem word_bytes (n : UInt32) :
    n.toUInt8.toUInt32 ||| (n >>> 8).toUInt8.toUInt32 <<< 8 |||
      (n >>> 16).toUInt8.toUInt32 <<< 16 ||| (n >>> 24).toUInt8.toUInt32 <<< 24 = n := by
  refine UInt32.toBitVec_inj.mp (BitVec.eq_of_getLsbD_eq fun i bound => ?_)
  rw [getLsbD_word]
  have shifted : ∀ k, k < 32 → k ≤ i →
      (n >>> UInt32.ofNat k).toBitVec.getLsbD (i - k) = n.toBitVec.getLsbD i := by
    intro k small le
    rw [getLsbD_shiftRight n small, Nat.add_sub_cancel' le]
  have second := shifted 8 (by decide)
  have third := shifted 16 (by decide)
  have fourth := shifted 24 (by decide)
  simp only [getLsbD_toUInt8]
  grind

/-- **The bytes of a word are those that it was put together from.** -/
theorem elementBytes_word (a b c d : UInt8) :
    elementBytes ⟨a.toUInt32 ||| b.toUInt32 <<< 8 ||| c.toUInt32 <<< 16 ||| d.toUInt32 <<< 24⟩ =
      [a, b, c, d] := by
  have bits := getLsbD_word a b c d
  generalize a.toUInt32 ||| b.toUInt32 <<< 8 ||| c.toUInt32 <<< 16 ||| d.toUInt32 <<< 24 = n
    at bits ⊢
  have byte : ∀ (m : UInt32) (b : UInt8),
      (∀ i, i < 8 → m.toBitVec.getLsbD i = b.toBitVec.getLsbD i) → m.toUInt8 = b := by
    intro m b same
    refine UInt8.toBitVec_inj.mp (BitVec.eq_of_getLsbD_eq fun i bound => ?_)
    rw [getLsbD_toUInt8, same i bound, decide_eq_true bound, Bool.true_and]
  have shifted : ∀ (b : UInt8) k, k < 32 →
      (∀ i, i < 8 → n.toBitVec.getLsbD (k + i) = b.toBitVec.getLsbD i) →
        (n >>> UInt32.ofNat k).toUInt8 = b := by
    intro b k small same
    refine byte _ b fun i bound => ?_
    rw [getLsbD_shiftRight n small, same i bound]
  have first : n.toUInt8 = a := byte n a (by grind)
  have second : (n >>> 8).toUInt8 = b := shifted b 8 (by decide) (by grind)
  have third : (n >>> 16).toUInt8 = c := shifted c 16 (by decide) (by grind)
  have fourth : (n >>> 24).toUInt8 = d := shifted d 24 (by decide) (by grind)
  simp only [elementBytes, first, second, third, fourth]

/-- **`elements` reads elements back from their bytes.** -/
theorem elements_flatMap (values : List Single) :
    elements (values.flatMap elementBytes) = values := by
  induction values with
  | nil => rfl
  | cons x values ih =>
    rw [List.flatMap_cons, elementBytes]
    simp only [List.cons_append, List.nil_append, elements]
    rw [word_bytes, ih]

/-- **Bytes are those of the elements that they stand for**, if these are whole. -/
theorem flatMap_elements {bytes : List UInt8} (whole : bytes.length % 4 = 0) :
    (elements bytes).flatMap elementBytes = bytes := by
  fun_induction elements bytes with
  | case1 a b c d rest ih =>
    have later : rest.length % 4 = 0 := by
      simp only [List.length_cons] at whole
      omega
    rw [List.flatMap_cons, elementBytes_word, ih later]
    rfl
  | case2 bytes short =>
    -- Fewer than four bytes are whole only if there are none.
    match bytes with
    | [] => rfl
    | [a] | [a, b] | [a, b, c] => simp at whole
    | a :: b :: c :: d :: rest => exact absurd rfl (short a b c d rest)

/-- Four bytes make an element. -/
theorem length_flatMap_elementBytes (values : List Single) :
    (values.flatMap elementBytes).length = 4 * values.length := by
  induction values with
  | nil => rfl
  | cons x values ih =>
    rw [List.flatMap_cons, List.length_append, ih, List.length_cons, Nat.mul_succ, Nat.add_comm]
    rfl

/-- **`unpack` of the base 64 text of bytes are the elements that have these bytes**, if there are
such. -/
theorem unpack_text {bytes : List UInt8} {values : List Single} :
    unpack (Base64.text bytes) = .ok values ↔ values.flatMap elementBytes = bytes := by
  rw [unpack, Base64.encode_text, Base64.decode_encode]
  simp only
  split
  · next whole =>
    constructor
    · intro unpacked
      obtain rfl := Except.ok.inj unpacked
      exact flatMap_elements whole
    · rintro rfl
      rw [elements_flatMap]
  · next broken =>
    refine iff_of_false nofun ?_
    rintro rfl
    exact broken (by rw [length_flatMap_elementBytes, Nat.mul_mod_right])

/-! ## Vectors -/

/-- What a written vector stands for. -/
inductive WrittenVector.Spells : WrittenVector → List Single → Prop where
  /-- Numbers stand for themselves. -/
  | numbers (values : List Single) : Spells (.numbers values) values
  /-- A text stands for what it is unpacked to. -/
  | packed {text : String} {values : List Single} (unpacked : unpack text = .ok values) :
    Spells (.packed text) values

namespace EmbeddingEntry

/-- Whether a vector is the one of an entry. -/
structure DecodedTo (e : EmbeddingEntry) (x : Embedding) : Prop where
  /-- It has the entry's position. -/
  index : x.index = e.index
  /-- It is the vector that is written. -/
  vector : e.vector.Spells x.vector

/-- Why an entry is refused. -/
inductive Refused (e : EmbeddingEntry) : ProviderError → Prop where
  /-- It is packed, and its text does not unpack; the failure names its position. -/
  | packed {text reason : String} (written : e.vector = .packed text)
    (fault : unpack text = .error reason) :
    Refused e (.api 200 s!"invalid embedding {e.index.toNat}: {reason}")

variable {e : EmbeddingEntry} {x : Embedding} {failure : ProviderError}

/-- **`toEmbedding` decodes an entry to its vector.** -/
theorem toEmbedding_eq_ok : e.toEmbedding = .ok x ↔ e.DecodedTo x := by
  obtain ⟨index, vector⟩ := e
  obtain ⟨index', values⟩ := x
  constructor
  · intro decoded
    cases vector with
    | numbers own =>
      cases decoded
      exact ⟨rfl, .numbers values⟩
    | packed text =>
      simp only [toEmbedding] at decoded
      split at decoded
      · next unpacked =>
        cases decoded
        exact ⟨rfl, .packed unpacked⟩
      · cases decoded
  · rintro ⟨rfl, spells⟩
    cases spells with
    | numbers => rfl
    | packed unpacked => simp only [toEmbedding, unpacked]

/-- **`toEmbedding` refuses an entry** if it is packed and does not unpack. -/
theorem toEmbedding_eq_error : e.toEmbedding = .error failure ↔ e.Refused failure := by
  obtain ⟨index, vector⟩ := e
  constructor
  · intro refused
    cases vector with
    | numbers => cases refused
    | packed text =>
      simp only [toEmbedding] at refused
      split at refused
      · cases refused
      · next fault =>
        cases refused
        exact .packed rfl fault
  · rintro ⟨written, fault⟩
    obtain rfl : vector = .packed _ := written
    simp only [toEmbedding, fault]
    rfl

end EmbeddingEntry

/-! ## Answers -/

/-- Positions are compared as the sort wants them: transitively. -/
theorem index_trans (x y z : Embedding) :
    decide (x.index ≤ y.index) = true → decide (y.index ≤ z.index) = true →
      decide (x.index ≤ z.index) = true := by
  simp only [decide_eq_true_eq]
  exact UInt32.le_trans

/-- Of two positions one comes first. -/
theorem index_total (x y : Embedding) :
    (decide (x.index ≤ y.index) || decide (y.index ≤ x.index)) = true := by
  simp only [Bool.or_eq_true, decide_eq_true_eq]
  exact UInt32.le_total x.index y.index

/-- **`mergeSort` keeps the order of vectors of the same position.** -/
theorem filter_mergeSort (xs : List Embedding) (i : UInt32) :
    (xs.mergeSort fun x y => x.index ≤ y.index).filter (·.index = i) =
      xs.filter (·.index = i) := by
  have same : ∀ x ∈ xs.filter (·.index = i), x.index = i := fun x mem =>
    of_decide_eq_true (List.mem_filter.mp mem).2
  -- The vectors of one position are in order, so that sorting leaves them in a row.
  have ordered : (xs.filter (·.index = i)).Pairwise fun x y => decide (x.index ≤ y.index) = true :=
    List.pairwise_of_forall_mem_list fun x mem y mem' => by
      rw [same x mem, same y mem']
      exact decide_eq_true (UInt32.le_refl i)
  have kept := List.sublist_mergeSort index_trans index_total ordered List.filter_sublist
  have within := kept.filter (·.index = i)
  rw [List.filter_filter] at within
  simp only [Bool.and_self] at within
  exact (within.eq_of_length ((List.mergeSort_perm _ _).filter _).length_eq.symm).symm

/-- **Ordered vectors are known by those of each position.** -/
theorem eq_of_filter_index {xs ys : List Embedding}
    (ordered : xs.Pairwise fun x y => x.index ≤ y.index)
    (ordered' : ys.Pairwise fun x y => x.index ≤ y.index)
    (same : ∀ i : UInt32, xs.filter (·.index = i) = ys.filter (·.index = i)) : xs = ys := by
  have mem : ∀ x, x ∈ xs ↔ x ∈ ys := by
    intro x
    have own := congrArg (x ∈ ·) (same x.index)
    simpa [List.mem_filter] using own
  induction xs generalizing ys with
  | nil =>
    refine (List.eq_nil_iff_forall_not_mem.mpr fun y there => ?_).symm
    cases (mem y).mpr there
  | cons x xs ih =>
    cases ys with
    | nil => cases (mem x).mp List.mem_cons_self
    | cons y ys =>
      obtain ⟨least, tail⟩ := List.pairwise_cons.mp ordered
      obtain ⟨least', tail'⟩ := List.pairwise_cons.mp ordered'
      -- Each head has the least position of its list, so both have the same.
      have le : x.index ≤ y.index := by
        rcases List.mem_cons.mp ((mem y).mpr List.mem_cons_self) with rfl | later
        · exact UInt32.le_refl _
        · exact least y later
      have ge : y.index ≤ x.index := by
        rcases List.mem_cons.mp ((mem x).mp List.mem_cons_self) with rfl | later
        · exact UInt32.le_refl _
        · exact least' x later
      have here : y.index = x.index := UInt32.le_antisymm ge le
      have heads := same x.index
      rw [List.filter_cons_of_pos (by simp), List.filter_cons_of_pos (by simp [here])] at heads
      obtain ⟨rfl, -⟩ := List.cons.inj heads
      have rest : ∀ i : UInt32, xs.filter (·.index = i) = ys.filter (·.index = i) := by
        intro i
        have both := same i
        by_cases own : x.index = i
        · rw [List.filter_cons_of_pos (by simp [own]), List.filter_cons_of_pos (by simp [own])]
            at both
          exact (List.cons.inj both).2
        · rwa [List.filter_cons_of_neg (by simp [own]), List.filter_cons_of_neg (by simp [own])]
            at both
      refine congrArg (x :: ·) (ih tail tail' rest fun z => ?_)
      have own := congrArg (z ∈ ·) (rest z.index)
      simpa [List.mem_filter] using own

namespace EmbeddingReply

/-- Whether a response says what an answer on the wire does. -/
structure DecodedTo (r : EmbeddingReply) (response : EmbeddingResponse) : Prop where
  /-- It has the answer's model. -/
  model : response.model = r.model
  /-- Each entry is decoded once, and entries of the same position stay in their order. -/
  vectors : ∃ xs, List.Forall₂ EmbeddingEntry.DecodedTo r.data xs ∧
    response.embeddings.Perm xs ∧ ∀ i : UInt32,
      response.embeddings.filter (·.index = i) = xs.filter (·.index = i)
  /-- The vectors are ordered by their positions. -/
  ordered : response.embeddings.Pairwise fun x y => x.index ≤ y.index
  /-- The usage is the answer's, no tokens being spent on a completion. -/
  usage : response.usage = r.usage.map fun u => ⟨u.promptTokens, 0, u.totalTokens⟩

/-- Whether an answer is refused for its first entry that does not decode. -/
def Blames (r : EmbeddingReply) (failure : ProviderError) : Prop :=
  ∃ before e after, r.data = before ++ e :: after ∧ (∀ y ∈ before, ∃ x, y.DecodedTo x) ∧
    e.Refused failure

variable {r : EmbeddingReply} {response : EmbeddingResponse} {failure : ProviderError}

/-- **`toResponse` refuses an answer for its first entry that does not decode.** -/
theorem toResponse_eq_error : r.toResponse = .error failure ↔ r.Blames failure := by
  have later : ∀ x : Except ProviderError (List Embedding),
      (do let embeddings ← x
          .ok
            { model := r.model
              embeddings := embeddings.mergeSort fun a b => a.index ≤ b.index
              usage := r.usage.map fun u => ⟨u.promptTokens, 0, u.totalTokens⟩ }) =
        (.error failure : Except ProviderError EmbeddingResponse) ↔ x = .error failure := by
    intro x
    cases x <;> simp [bind, Except.bind]
  rw [toResponse, later, Except.mapM_eq_error, Blames]
  simp only [EmbeddingEntry.toEmbedding_eq_ok, EmbeddingEntry.toEmbedding_eq_error]

/-- **`toResponse` decodes an answer** to the response that says what it does. -/
theorem toResponse_eq_ok : r.toResponse = .ok response ↔ r.DecodedTo response := by
  have each : ∀ {xs}, r.data.mapM EmbeddingEntry.toEmbedding = .ok xs ↔
      List.Forall₂ EmbeddingEntry.DecodedTo r.data xs := by
    intro xs
    simp only [Except.mapM_eq_ok, EmbeddingEntry.toEmbedding_eq_ok]
  have sorted : ∀ xs : List Embedding,
      (xs.mergeSort fun x y => x.index ≤ y.index).Pairwise fun x y => x.index ≤ y.index :=
    fun xs => (List.pairwise_mergeSort index_trans index_total xs).imp of_decide_eq_true
  rw [toResponse, Except.bind_eq_ok]
  simp only [each]
  constructor
  · rintro ⟨xs, decoded, same⟩
    obtain rfl := Except.ok.inj same
    constructor
    case model => rfl
    case vectors => exact ⟨xs, decoded, List.mergeSort_perm _ _, filter_mergeSort xs⟩
    case ordered => exact sorted xs
    case usage => rfl
  · obtain ⟨model, embeddings, usage⟩ := response
    rintro ⟨rfl, ⟨xs, decoded, -, stable⟩, ordered, rfl⟩
    have same : xs.mergeSort (fun x y => x.index ≤ y.index) = embeddings :=
      eq_of_filter_index (sorted xs) ordered fun i => (filter_mergeSort xs i).trans (stable i).symm
    exact ⟨xs, decoded, by rw [same]⟩

/-- **Nothing is lost or misplaced in decoding.**  Elements are read back from the base 64 text of
their bytes, and the text of any bytes is read if these are whole elements.  An answer is refused
exactly if a packed entry is not read, for the first such entry, and otherwise has each vector once,
ordered by position. -/
theorem toResponse_decoded :
    (∀ values : List Single, unpack (Base64.text (values.flatMap elementBytes)) = .ok values) ∧
    (∀ bytes : List UInt8,
      (∃ values, unpack (Base64.text bytes) = .ok values) ↔ bytes.length % 4 = 0) ∧
    ∀ r : EmbeddingReply,
      (∀ failure, r.toResponse = .error failure ↔ r.Blames failure) ∧
      ∀ response, r.toResponse = .ok response ↔ r.DecodedTo response := by
  refine ⟨fun values => unpack_text.mpr rfl, fun bytes => ?_, fun r => ?_⟩
  · simp only [unpack_text]
    constructor
    · rintro ⟨values, rfl⟩
      rw [length_flatMap_elementBytes, Nat.mul_mod_right]
    · intro whole
      exact ⟨elements bytes, flatMap_elements whole⟩
  · exact ⟨fun failure => toResponse_eq_error, fun response => toResponse_eq_ok⟩

end EmbeddingReply

end Colloquy.Wire
