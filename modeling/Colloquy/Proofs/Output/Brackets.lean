import Colloquy.Output.Locate
import Colloquy.Proofs.Json.Grammar

/-! # Brackets in JSON text

The search for the bracket that closes the first one counts one kind of bracket only, and knows of
strings no more than where they end.  On JSON text that is enough: the main statement is
`Output.bracketed_compound`, that an array or an object is found exactly, whatever follows it. -/

namespace Colloquy.Output

open Json (Frame Part Derives StringTail Scalar Key Blanks Compound separator)

/-- Whether `closeFrom` passes over a text between the brackets that it counts. -/
def Passes (outer : Frame) (s : List Char) : Prop :=
  ∀ depth rest, 0 < depth →
    closeFrom outer.opening outer.close depth false false (s ++ rest) =
      (closeFrom outer.opening outer.close depth false false rest).map (s ++ ·)

/-- Whether `closeFrom` ends with a text if only one bracket is open, and goes on with one bracket
less if there are more. -/
def Ends (outer : Frame) (s : List Char) : Prop :=
  (∀ rest, closeFrom outer.opening outer.close 1 false false (s ++ rest) = some s) ∧
    ∀ depth rest, 0 < depth →
      closeFrom outer.opening outer.close (depth + 1) false false (s ++ rest) =
        (closeFrom outer.opening outer.close depth false false rest).map (s ++ ·)

/-- Whether a character means nothing to `closeFrom` outside of strings. -/
def Ordinary (outer : Frame) (c : Char) : Prop :=
  c ≠ '"' ∧ c ≠ outer.opening ∧ c ≠ outer.close

section Passes

variable {outer : Frame} {s t : List Char}

/-- Two texts are passed over if each is. -/
theorem Passes.append (hs : Passes outer s) (ht : Passes outer t) : Passes outer (s ++ t) := by
  intro depth rest inside
  rw [List.append_assoc, hs depth _ inside, ht depth _ inside, Option.map_map]
  congr 1
  funext found
  exact (List.append_assoc ..).symm

/-- A text that is passed over may come before the end. -/
theorem Passes.append_ends (hs : Passes outer s) (ht : Ends outer t) : Ends outer (s ++ t) := by
  refine ⟨fun rest => ?_, fun depth rest inside => ?_⟩
  · rw [List.append_assoc, hs 1 _ Nat.one_pos, ht.1]
    rfl
  · rw [List.append_assoc, hs _ _ (Nat.succ_pos _), ht.2 depth rest inside, Option.map_map]
    congr 1
    funext found
    exact (List.append_assoc ..).symm

/-- A text of ordinary characters is passed over. -/
theorem Passes.of_ordinary (ordinary : ∀ c ∈ s, Ordinary outer c) : Passes outer s := by
  intro depth rest inside
  induction s with
  | nil => exact Option.map_id'.symm
  | cons c s ih =>
    obtain ⟨⟨quote, opening, closing⟩, others⟩ := List.forall_mem_cons.mp ordinary
    rw [List.cons_append, closeFrom]
    simp [quote, opening, closing, ih others, Function.comp_def]

/-- Within a string a character other than a quote or a backslash is passed over. -/
theorem closeFrom_plain {c : Char} (other : c ≠ '"') (unescaped : c ≠ '\\') (depth : Nat)
    (s : List Char) :
    closeFrom outer.opening outer.close depth true false (c :: s) =
      (closeFrom outer.opening outer.close depth true false s).map (c :: ·) := by
  rw [closeFrom]
  simp [other, unescaped]

/-- Within a string a backslash and the character after it are passed over. -/
theorem closeFrom_escape (c : Char) (depth : Nat) (s : List Char) :
    closeFrom outer.opening outer.close depth true false ('\\' :: c :: s) =
      (closeFrom outer.opening outer.close depth true false s).map ('\\' :: c :: ·) := by
  rw [closeFrom.eq_def]
  simp only [Bool.false_eq_true, if_false, decide_true, Bool.and_true, if_true]
  rw [closeFrom]
  simp [Function.comp_def]

/-- **`closeFrom` leaves a string at its closing quote**, whatever the string holds. -/
theorem closeFrom_stringTail (h : StringTail s) (depth : Nat) (rest : List Char) :
    closeFrom outer.opening outer.close depth true false (s ++ rest) =
      (closeFrom outer.opening outer.close depth false false rest).map (s ++ ·) := by
  induction h with
  | quote =>
    rw [List.singleton_append, closeFrom]
    simp
  | plain other unescaped _ _ ih =>
    rw [List.cons_append, closeFrom_plain other unescaped, ih, Option.map_map]
    rfl
  | escape _ _ ih =>
    rw [List.cons_append, List.cons_append, closeFrom_escape, ih, Option.map_map]
    rfl
  | code digits _ ih =>
    simp only [List.forall_mem_cons] at digits
    obtain ⟨ha, hb, hc, hd, -⟩ := digits
    simp only [List.cons_append]
    rw [closeFrom_escape, closeFrom_plain ha.plain.1 ha.plain.2.1,
      closeFrom_plain hb.plain.1 hb.plain.2.1, closeFrom_plain hc.plain.1 hc.plain.2.1,
      closeFrom_plain hd.plain.1 hd.plain.2.1, ih]
    simp only [Option.map_map]
    rfl

/-- A string is passed over. -/
theorem Passes.of_stringTail (h : StringTail s) : Passes outer ('"' :: s) := by
  intro depth rest _
  have inside : closeFrom outer.opening outer.close depth true false (s ++ rest) =
      (closeFrom outer.opening outer.close depth false false rest).map (s ++ ·) :=
    closeFrom_stringTail h depth rest
  rw [List.cons_append, closeFrom]
  simp [inside, Function.comp_def]

end Passes

/-! ## Parts of JSON text -/

/-- What `closeFrom` makes of a part: it passes over values and over frames of the other kind, and
ends with a frame of its own. -/
def Searched (outer : Frame) (s : List Char) : Part → Prop
  | .value => Passes outer s
  | .rest frame _ => (frame = outer → Ends outer s) ∧ (frame ≠ outer → Passes outer s)

/-- Blanks are ordinary. -/
theorem ordinary_of_isSpace (outer : Frame) {c : Char} (h : Json.isSpace c = true) :
    Ordinary outer c := by
  rcases Json.isSpace_iff.mp h with rfl | rfl | rfl | rfl <;> cases outer <;>
    exact ⟨by decide, by decide, by decide⟩

/-- Digits are ordinary. -/
theorem ordinary_of_isDigit (outer : Frame) {c : Char} (h : Json.isDigit c = true) :
    Ordinary outer c := by
  refine ⟨?_, ?_, ?_⟩ <;> rintro rfl <;> revert h <;> cases outer <;> decide

/-- Scalars are made of ordinary characters. -/
theorem ordinary_of_scalar (outer : Frame) {s : List Char} (h : Scalar s) :
    ∀ c ∈ s, Ordinary outer c := by
  have others : ∀ c ∈ "aeflnrstuE+-.".toList,
      c ≠ '"' ∧ c ≠ outer.opening ∧ c ≠ outer.close := by
    cases outer <;> simp [Frame.opening, Frame.close]
  intro c mem
  rcases h.characters c mem with digit | other
  · exact ordinary_of_isDigit outer digit
  · exact others c other

/-- Brackets of the other kind are ordinary. -/
theorem ordinary_of_ne {frame outer : Frame} (other : frame ≠ outer) :
    Ordinary outer frame.opening ∧ Ordinary outer frame.close := by
  cases frame <;> cases outer <;>
    first | exact absurd rfl other | exact ⟨⟨by decide, by decide, by decide⟩,
      ⟨by decide, by decide, by decide⟩⟩

/-- Blanks are passed over. -/
theorem Passes.of_blanks (outer : Frame) {s : List Char} (h : Blanks s) : Passes outer s :=
  .of_ordinary fun c mem => ordinary_of_isSpace outer (h c mem)

/-- A comma, or nothing, is passed over. -/
theorem Passes.of_separator (outer : Frame) (comma : Bool) : Passes outer (separator comma) := by
  refine .of_ordinary ?_
  cases comma with
  | false => exact nofun
  | true =>
    refine List.forall_mem_singleton.mpr ?_
    cases outer <;> exact ⟨by decide, by decide, by decide⟩

/-- A name and its colon, or nothing, are passed over. -/
theorem Passes.of_key (outer : Frame) {frame : Frame} {s : List Char} (h : Key frame s) :
    Passes outer s := by
  cases h with
  | nothing => exact .of_ordinary nofun
  | name hb string ha =>
    have colon : Passes outer [':'] := by
      refine .of_ordinary (List.forall_mem_singleton.mpr ?_)
      cases outer <;> exact ⟨by decide, by decide, by decide⟩
    rw [← List.cons_append]
    exact (of_blanks outer hb).append
      ((of_stringTail string).append ((of_blanks outer ha).append colon))

/-- The opening of a frame is passed over together with the frame. -/
theorem Ends.passes {outer : Frame} {s : List Char} (h : Ends outer s) :
    Passes outer (outer.opening :: s) := by
  intro depth rest inside
  have quote : outer.opening ≠ '"' := by cases outer <;> decide
  have ended := h.2 depth rest inside
  rw [List.cons_append, closeFrom]
  simp [quote, ended, Function.comp_def]

/-- The end of a frame is its closing bracket. -/
theorem Ends.close (outer : Frame) : Ends outer [outer.close] := by
  have quote : outer.close ≠ '"' := by cases outer <;> decide
  have other : outer.close ≠ outer.opening := by cases outer <;> decide
  refine ⟨fun rest => ?_, fun depth rest inside => ?_⟩
  · rw [List.singleton_append, closeFrom]
    simp [quote, other]
  · have more : ¬ depth + 1 ≤ 1 := by omega
    rw [List.singleton_append, closeFrom]
    simp [quote, other, inside.ne']

/-- **`closeFrom` passes over values and ends with its frame.** -/
theorem searched (outer : Frame) {part : Part} {s : List Char} (h : Derives part s) :
    Searched outer s part := by
  induction h with
  | scalar scalar => exact .of_ordinary (ordinary_of_scalar outer scalar)
  | string string => exact .of_stringTail string
  | @compound frame s _ ih =>
    obtain ⟨own, foreign⟩ := ih
    by_cases same : frame = outer
    · rw [same]
      exact (own same).passes
    · exact .append (s := [frame.opening])
        (.of_ordinary (List.forall_mem_singleton.mpr (ordinary_of_ne same).1)) (foreign same)
  | @close frame comma blanks hb =>
    refine ⟨fun same => ?_, fun other => ?_⟩
    · rw [same]
      exact (Passes.of_blanks outer hb).append_ends (.close outer)
    · exact (Passes.of_blanks outer hb).append
        (.of_ordinary (List.forall_mem_singleton.mpr (ordinary_of_ne other).2))
  | @item frame comma before key blanks value s hb hk hb' _ _ ihv ihs =>
    have front := (Passes.of_blanks outer hb).append ((Passes.of_separator outer comma).append
      ((Passes.of_key outer hk).append ((Passes.of_blanks outer hb').append ihv)))
    have text : before ++ (separator comma ++ (key ++ (blanks ++ (value ++ s)))) =
        before ++ (separator comma ++ (key ++ (blanks ++ value))) ++ s := by
      simp only [List.append_assoc]
    rw [text]
    exact ⟨fun same => front.append_ends (ihs.1 same), fun other => front.append (ihs.2 other)⟩

/-! ## Arrays and objects -/

/-- **`bracketed` finds an array or an object exactly**, whatever follows it. -/
theorem bracketed_compound {frame : Frame} {s : List Char} (h : Derives (.rest frame false) s)
    (rest : List Char) :
    bracketed frame.opening frame.close (frame.opening :: (s ++ rest)) =
      some (frame.opening :: s) := by
  have ends := (searched frame h).1 rfl
  have quote : frame.opening ≠ '"' := by cases frame <;> decide
  rw [bracketed, closeFrom]
  simp [quote, ends.1 rest]

/-- **`firstSpan` finds the first array or object**, if no bracket comes before it. -/
theorem firstSpan_compound {p j : List Char} (before : ∀ c ∈ p, opensSpan c = false)
    (h : Compound j) (q : List Char) : firstSpan (p ++ (j ++ q)) = some j := by
  obtain ⟨frame, s, rfl, tail⟩ := h
  have found := bracketed_compound tail q
  have opens : opensSpan frame.opening = true := by cases frame <;> rfl
  have start : (p ++ frame.opening :: (s ++ q)).dropWhile (fun c => !opensSpan c) =
      frame.opening :: (s ++ q) := by
    rw [List.dropWhile_append_of_pos (by simpa using before)]
    simp [opens]
  rw [List.cons_append, firstSpan, start]
  cases frame with
  | list => exact found
  | object => exact found

/-- **No array or object begins another one**, unless they are the same. -/
theorem compound_unique {j k q r : List Char} (hj : Compound j) (hk : Compound k)
    (same : j ++ q = k ++ r) : j = k := by
  have first := firstSpan_compound (p := []) nofun hj q
  have second := firstSpan_compound (p := []) nofun hk r
  rw [List.nil_append, same] at first
  exact Option.some.inj (first.symm.trans second)

end Colloquy.Output
