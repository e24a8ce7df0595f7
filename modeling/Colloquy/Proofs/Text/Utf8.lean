import Colloquy.Proofs.Except
import Colloquy.Text.Utf8

/-! # Decoding without faults

`Utf8.Decodes` relates bytes to the text that they decode to without a fault, one character at a
time and with no bound on their number.  `decode?` succeeds on exactly such bytes
(`decode?_eq_ok`), `decodeLossy` agrees with it there, bytes that decode can be put together
(`decode?_append`), and a byte that is a character of its own can be taken off their end
(`exists_decode?_of_concat`). -/

namespace Colloquy.Utf8

/-- Bytes and the text that they decode to. -/
inductive Decodes : List UInt8 → List Char → Prop where
  /-- No bytes are no characters. -/
  | nil : Decodes [] []
  /-- A character stands in front. -/
  | cons {b : UInt8} {bytes rest : List UInt8} {c : Char} {s : List Char}
    (front : takeAfter b bytes = .ok (c, rest)) (later : Decodes rest s) :
    Decodes (b :: bytes) (c :: s)

/-! ## One character -/

/-- Continuation bytes are read from the front. -/
theorem continuation_suffix {n seen value v : Nat} {range : UInt8 × UInt8} {bytes rest : List UInt8}
    (h : continuation n seen range value bytes = .ok (v, rest)) : rest <:+ bytes := by
  induction n generalizing seen range value bytes with
  | zero =>
    rw [continuation] at h
    obtain ⟨-, rfl⟩ := Prod.mk.inj (Except.ok.inj h)
    exact List.suffix_rfl
  | succ n ih =>
    cases bytes with
    | nil => cases h
    | cons b bytes =>
      rw [continuation] at h
      split at h
      · exact (ih h).trans (List.suffix_cons b bytes)
      · cases h

/-- Continuation bytes are read without a look at what follows. -/
theorem continuation_append {n seen value v : Nat} {range : UInt8 × UInt8}
    {bytes rest more : List UInt8} (h : continuation n seen range value bytes = .ok (v, rest)) :
    continuation n seen range value (bytes ++ more) = .ok (v, rest ++ more) := by
  induction n generalizing seen range value bytes with
  | zero =>
    rw [continuation] at h ⊢
    obtain ⟨rfl, rfl⟩ := Prod.mk.inj (Except.ok.inj h)
    rfl
  | succ n ih =>
    cases bytes with
    | nil => cases h
    | cons b bytes =>
      rw [List.cons_append]
      rw [continuation] at h ⊢
      split at h
      · next fits => rw [if_pos fits, ih h]
      · cases h

/-- A character is either its leading byte, or that byte and some continuation bytes. -/
theorem takeAfter_eq_ok {b : UInt8} {bytes rest : List UInt8} {c : Char}
    (h : takeAfter b bytes = .ok (c, rest)) :
    (rest = bytes ∧ ∀ more, takeAfter b more = .ok (c, more)) ∨
    ∃ n value v, continuation n 1 (secondByte b) value bytes = .ok (v, rest) ∧
      ∀ more, takeAfter b more =
        (continuation n 1 (secondByte b) value more).map fun r => (Char.ofNat r.1, r.2) := by
  -- In the three longer forms a character ends where its continuation bytes end.
  have long : ∀ {n value : Nat} {bytes : List UInt8},
      (continuation n 1 (secondByte b) value bytes).map (fun r => (Char.ofNat r.1, r.2)) =
        .ok (c, rest) →
      ∃ v, continuation n 1 (secondByte b) value bytes = .ok (v, rest) := by
    intro n value bytes h
    obtain ⟨⟨v, rest'⟩, read, same⟩ := Except.map_eq_ok.mp h
    obtain ⟨-, rfl⟩ := Prod.mk.inj same
    exact ⟨v, read⟩
  unfold takeAfter at h ⊢
  by_cases one : b < 0x80
  · simp only [if_pos one] at h ⊢
    obtain ⟨rfl, rfl⟩ := Prod.mk.inj (Except.ok.inj h)
    exact .inl ⟨rfl, fun _ => rfl⟩
  simp only [if_neg one] at h ⊢
  by_cases stray : b < 0xC2
  · rw [if_pos stray] at h
    cases h
  simp only [if_neg stray] at h ⊢
  right
  by_cases two : b < 0xE0
  · simp only [if_pos two] at h ⊢
    obtain ⟨v, read⟩ := long h
    exact ⟨1, _, v, read, fun _ => rfl⟩
  simp only [if_neg two] at h ⊢
  by_cases three : b < 0xF0
  · simp only [if_pos three] at h ⊢
    obtain ⟨v, read⟩ := long h
    exact ⟨2, _, v, read, fun _ => rfl⟩
  simp only [if_neg three] at h ⊢
  by_cases four : b < 0xF5
  · simp only [if_pos four] at h ⊢
    obtain ⟨v, read⟩ := long h
    exact ⟨3, _, v, read, fun _ => rfl⟩
  · rw [if_neg four] at h
    cases h

/-- A character is read from the front. -/
theorem takeAfter_suffix {b : UInt8} {bytes rest : List UInt8} {c : Char}
    (h : takeAfter b bytes = .ok (c, rest)) : rest <:+ bytes := by
  rcases takeAfter_eq_ok h with ⟨rfl, -⟩ | ⟨n, value, v, read, -⟩
  · exact List.suffix_rfl
  · exact continuation_suffix read

/-- A character is read without a look at what follows. -/
theorem takeAfter_append {b : UInt8} {bytes rest more : List UInt8} {c : Char}
    (h : takeAfter b bytes = .ok (c, rest)) :
    takeAfter b (bytes ++ more) = .ok (c, rest ++ more) := by
  rcases takeAfter_eq_ok h with ⟨rfl, alone⟩ | ⟨n, value, v, read, long⟩
  · exact alone _
  · rw [long, read] at h
    rw [long, continuation_append read]
    obtain ⟨same, -⟩ := Prod.mk.inj (Except.ok.inj h)
    simp only [Except.map, same]

/-- Continuation bytes do not go up to a byte that is below their ranges. -/
theorem continuation_concat {n seen value v : Nat} {range : UInt8 × UInt8} {last : UInt8}
    {bytes rest : List UInt8} (below : last < 0x80) (high : 0x80 ≤ range.1)
    (h : continuation n seen range value (bytes ++ [last]) = .ok (v, rest)) :
    ∃ rest', rest = rest' ++ [last] ∧
      continuation n seen range value bytes = .ok (v, rest') := by
  have outside : ∀ {low up : UInt8}, 0x80 ≤ low → continues low up last = false := by
    intro low up low_ge
    have short : ¬ low ≤ last := UInt8.not_le.mpr (UInt8.lt_of_lt_of_le below low_ge)
    simp [continues, short]
  induction n generalizing seen range value bytes with
  | zero =>
    rw [continuation] at h ⊢
    obtain ⟨rfl, rfl⟩ := Prod.mk.inj (Except.ok.inj h)
    exact ⟨bytes, rfl, rfl⟩
  | succ n ih =>
    obtain ⟨low, up⟩ := range
    cases bytes with
    | nil =>
      rw [List.nil_append, continuation, outside high] at h
      cases h
    | cons b bytes =>
      rw [List.cons_append, continuation] at h
      rw [continuation]
      split at h
      · next fits =>
        rw [if_pos fits]
        exact ih (UInt8.le_refl _) h
      · cases h

/-- The second byte of a character is none that is a character of its own. -/
theorem le_secondByte (lead : UInt8) : 0x80 ≤ (secondByte lead).1 := by
  unfold secondByte
  repeat' split
  all_goals decide

/-- A character does not go up to a byte that is a character of its own. -/
theorem takeAfter_concat {b last : UInt8} {bytes rest : List UInt8} {c : Char}
    (below : last < 0x80) (h : takeAfter b (bytes ++ [last]) = .ok (c, rest)) :
    ∃ rest', rest = rest' ++ [last] ∧ takeAfter b bytes = .ok (c, rest') := by
  rcases takeAfter_eq_ok h with ⟨rfl, alone⟩ | ⟨n, value, v, read, long⟩
  · exact ⟨bytes, rfl, alone bytes⟩
  · obtain ⟨rest', rfl, read'⟩ := continuation_concat below (le_secondByte b) read
    rw [long, read] at h
    obtain ⟨same, -⟩ := Prod.mk.inj (Except.ok.inj h)
    refine ⟨rest', rfl, ?_⟩
    rw [long, read']
    simp only [Except.map, same]

/-! ## Whole texts -/

/-- Decoding succeeds only on bytes that decode. -/
theorem decodes_of_decodeFrom {fuel offset : Nat} {bytes : List UInt8} {s : List Char}
    (h : decodeFrom fuel offset bytes = .ok s) : Decodes bytes s := by
  induction fuel generalizing offset bytes s with
  | zero =>
    cases bytes with
    | nil =>
      obtain rfl := Except.ok.inj h
      exact .nil
    | cons => cases h
  | succ fuel ih =>
    cases bytes with
    | nil =>
      obtain rfl := Except.ok.inj h
      exact .nil
    | cons b bytes =>
      rw [decodeFrom] at h
      split at h
      · cases h
      · next c rest front =>
        obtain ⟨s, later, rfl⟩ := Except.map_eq_ok.mp h
        exact .cons front (ih later)

namespace Decodes

variable {bytes more : List UInt8} {s t : List Char}

/-- Decoding as many characters as there are bytes succeeds. -/
theorem decodeFrom_eq (h : Decodes bytes s) {fuel offset : Nat} (enough : bytes.length ≤ fuel) :
    decodeFrom fuel offset bytes = .ok s := by
  induction h generalizing fuel offset with
  | nil => cases fuel <;> rfl
  | @cons b bytes rest c s front later ih =>
    -- A character takes up at least its leading byte, so the fuel lasts.
    have shorter := (takeAfter_suffix front).length_le
    rw [List.length_cons] at enough
    cases fuel with
    | zero => omega
    | succ fuel =>
      rw [decodeFrom, front]
      simp only
      rw [ih (by omega), Except.map]

/-- Decoding as many characters as there are bytes puts no mark where there is no fault. -/
theorem decodeMarkingFrom_eq (h : Decodes bytes s) (mark : List Char) {fuel : Nat}
    (enough : bytes.length ≤ fuel) : decodeMarkingFrom mark fuel bytes = s := by
  induction h generalizing fuel with
  | nil => cases fuel <;> rfl
  | @cons b bytes rest c s front later ih =>
    have shorter := (takeAfter_suffix front).length_le
    rw [List.length_cons] at enough
    cases fuel with
    | zero => omega
    | succ fuel =>
      rw [decodeMarkingFrom, front]
      simp only
      rw [ih (by omega)]

/-- Bytes that decode can be put together. -/
theorem append (h : Decodes bytes s) (g : Decodes more t) : Decodes (bytes ++ more) (s ++ t) := by
  induction h with
  | nil => exact g
  | cons front _ ih => exact .cons (takeAfter_append front) ih

/-- A byte that is a character of its own ends no character before it. -/
theorem of_concat {last : UInt8} (below : last < 0x80) (h : Decodes (bytes ++ [last]) s) :
    ∃ t, Decodes bytes t := by
  generalize whole : bytes ++ [last] = all at h
  induction h generalizing bytes with
  | nil => simp at whole
  | @cons b later rest c s front _ ih =>
    cases bytes with
    | nil => exact ⟨[], .nil⟩
    | cons first bytes =>
      obtain ⟨rfl, rfl⟩ := List.cons.inj whole
      obtain ⟨rest', rfl, front'⟩ := takeAfter_concat below front
      obtain ⟨t, decoded⟩ := ih rfl
      exact ⟨c :: t, .cons front' decoded⟩

end Decodes

/-- **Decoding succeeds on exactly the bytes that decode.** -/
theorem decode?_eq_ok {bytes : List UInt8} {s : List Char} :
    decode? bytes = .ok s ↔ Decodes bytes s :=
  ⟨decodes_of_decodeFrom, fun h => h.decodeFrom_eq (Nat.le_refl _)⟩

/-- **No fault is marked** where decoding succeeds. -/
theorem decodeMarking_of_decode? {bytes : List UInt8} {s : List Char} (h : decode? bytes = .ok s)
    (mark : List Char) : decodeMarking mark bytes = s :=
  (decode?_eq_ok.mp h).decodeMarkingFrom_eq mark (Nat.le_refl _)

/-- **Lossy decoding loses nothing** where decoding succeeds. -/
theorem decodeLossy_of_decode? {bytes : List UInt8} {s : List Char} (h : decode? bytes = .ok s) :
    decodeLossy bytes = s :=
  decodeMarking_of_decode? h _

/-- **Bytes can be decoded piece by piece**, as long as no character is cut. -/
theorem decode?_append {bytes more : List UInt8} {s t : List Char} (h : decode? bytes = .ok s)
    (g : decode? more = .ok t) : decode? (bytes ++ more) = .ok (s ++ t) :=
  decode?_eq_ok.mpr ((decode?_eq_ok.mp h).append (decode?_eq_ok.mp g))

/-- **Bytes before one that is a character of its own** decode if they do together with it. -/
theorem exists_decode?_of_concat {bytes : List UInt8} {last : UInt8} {s : List Char}
    (below : last < 0x80) (h : decode? (bytes ++ [last]) = .ok s) :
    ∃ t, decode? bytes = .ok t := by
  obtain ⟨t, decoded⟩ := (decode?_eq_ok.mp h).of_concat below
  exact ⟨t, decode?_eq_ok.mpr decoded⟩

/-! ## Characters of one byte -/

/-- Bytes that are characters of their own decode to these. -/
theorem decodes_of_lt {bytes : List UInt8} (below : ∀ b ∈ bytes, b < 0x80) :
    Decodes bytes (bytes.map fun b => Char.ofNat b.toNat) := by
  induction bytes with
  | nil => exact .nil
  | cons b bytes ih =>
    obtain ⟨first, others⟩ := List.forall_mem_cons.mp below
    exact .cons (if_pos first) (ih others)

/-- **Bytes that are characters of their own are those of their text.** -/
theorem encode_decodeLossy {bytes : List UInt8} (below : ∀ b ∈ bytes, b < 0x80) :
    encode (decodeLossy bytes) = bytes := by
  have all : ∀ i : Fin 128, String.utf8EncodeChar (Char.ofNat i) = [UInt8.ofNat i] := by decide
  have each : ∀ b ∈ bytes, String.utf8EncodeChar (Char.ofNat b.toNat) = [b] := by
    intro b mem
    have own := all ⟨b.toNat, UInt8.lt_iff_toNat_lt.mp (below b mem)⟩
    rwa [UInt8.ofNat_toNat] at own
  rw [decodeLossy_of_decode? (decode?_eq_ok.mpr (decodes_of_lt below)), encode, List.flatMap_map,
    List.flatMap_congr each]
  exact List.flatMap_singleton' bytes

end Colloquy.Utf8
