import Colloquy.Proofs.Json.Grammar

/-! # Printed values are JSON text

What is printed for a value belongs to the grammar of JSON text, so a scanner that only looks at the
form of a text passes over it.  The main statement is `Json.skipValue_print`. -/

namespace Colloquy.Json

/-- An escaped character may stand within a string. -/
theorem StringTail.escapeChar {s : List Char} (h : StringTail s) (c : Char) :
    StringTail (Json.escapeChar c ++ s) := by
  rw [Json.escapeChar]
  repeat' split
  all_goals try exact .escape (by decide) h
  · next control =>
    have hex : ∀ n < 16, IsHex (hexDigit n) := fun n small =>
      isHex_iff.mpr ⟨n, hexValue?_hexDigit n small⟩
    have zero : IsHex '0' := .inl rfl
    refine .code ?_ h
    simp only [List.forall_mem_cons]
    exact ⟨zero, zero, hex _ (by omega), hex _ (by omega), List.forall_mem_nil _⟩
  · next quote backslash _ _ _ _ _ control =>
    exact .plain quote backslash (Nat.le_of_not_lt control) h

/-- A printed string is a string. -/
theorem stringTail_print (s : String) :
    StringTail (s.toList.flatMap escapeChar ++ ['"']) := by
  induction s.toList with
  | nil => exact .quote
  | cons c cs ih =>
    rw [List.flatMap_cons, List.append_assoc]
    exact ih.escapeChar c

/-- A natural is written as a number. -/
theorem unsigned_toDigits (n : Nat) : Unsigned (Nat.toDigits 10 n) := by
  obtain ⟨c, digits, text, first, others⟩ := exists_toDigits n
  have whole : Whole (c :: digits) := by
    by_cases zero : c = '0'
    · subst zero
      obtain rfl := eq_nil_of_toDigits text
      exact .zero
    · exact .positive zero (.mk first others)
  have number := Unsigned.mk whole .none .none
  rw [List.append_nil, List.append_nil] at number
  rwa [text]

/-- An integer is written as a number. -/
theorem scalar_printInt (i : Int) : Scalar (printInt i) := by
  rw [printInt]
  split
  · exact .signed (unsigned_toDigits _)
  · exact .unsigned (unsigned_toDigits _)

/-! ## Arrays and objects -/

/-- A frame may be closed. -/
theorem derives_close (frame : Frame) (comma : Bool) :
    Derives (.rest frame comma) [frame.close] := by
  have closed : Derives (.rest frame comma) ([] ++ [frame.close]) := .close nofun
  exact closed

/-- A value within a frame, with what has to come before it. -/
def Frame.Entry (frame : Frame) (s : List Char) : Prop :=
  ∃ key value, s = key ++ value ∧ Key frame key ∧ Derives .value value

/-- A frame may go on with an entry. -/
theorem Frame.Entry.rest {frame : Frame} {comma : Bool} {s t : List Char} (h : frame.Entry s)
    (rest : Derives (.rest frame true) t) :
    Derives (.rest frame comma) (separator comma ++ (s ++ t)) := by
  obtain ⟨key, value, rfl, hk, hv⟩ := h
  have longer : Derives (.rest frame comma)
      ([] ++ (separator comma ++ (key ++ ([] ++ (value ++ t))))) := .item nofun hk nofun hv rest
  simpa only [List.nil_append, List.append_assoc] using longer

/-- A frame may go on with entries after a comma each. -/
theorem derives_flatMap {α : Type} {frame : Frame} {text : α → List Char} {xs : List α}
    (all : ∀ x ∈ xs, frame.Entry (text x)) :
    Derives (.rest frame true) ((xs.flatMap fun x => ',' :: text x) ++ [frame.close]) := by
  induction xs with
  | nil => exact derives_close frame true
  | cons x xs ih =>
    obtain ⟨first, others⟩ := List.forall_mem_cons.mp all
    have longer : Derives (.rest frame true) (separator true ++ _) := first.rest (ih others)
    simpa only [separator, List.flatMap_cons, List.cons_append, List.nil_append,
      List.append_assoc] using longer

/-- A frame may consist of entries, the first of them without a comma. -/
theorem derives_cons {α : Type} {frame : Frame} {text : α → List Char} {x : α} {xs : List α}
    (all : ∀ y ∈ x :: xs, frame.Entry (text y)) :
    Derives (.rest frame false)
      (text x ++ (xs.flatMap fun y => ',' :: text y) ++ [frame.close]) := by
  obtain ⟨first, others⟩ := List.forall_mem_cons.mp all
  have whole : Derives (.rest frame false) (separator false ++ _) :=
    first.rest (derives_flatMap others)
  rwa [List.append_assoc]

/-! ## Values -/

/-- **What is printed for a value is a value.** -/
theorem Plain.derives {n : Nat} {v : Json} (h : Plain n v) : Derives .value (print v) := by
  induction h with
  | null => exact .scalar (.word (by decide))
  | bool b => cases b <;> exact .scalar (.word (by decide))
  | int i => exact .scalar (scalar_printInt i.val)
  | str s => exact .string (stringTail_print s)
  | @arr n items _ ih =>
    have entry : ∀ v ∈ items, Frame.list.Entry (print v) :=
      fun v mem => ⟨[], print v, rfl, .nothing, ih v mem⟩
    refine @Derives.compound .list _ ?_
    cases items with
    | nil => exact derives_close .list false
    | cons v items =>
      rw [printItems_cons]
      exact derives_cons entry
  | @obj n fields _ ih =>
    have entry : ∀ f ∈ fields, Frame.object.Entry (printMember f) := by
      intro f mem
      have key : Key .object ([] ++ '"' :: (_ ++ ([] ++ [':']))) :=
        .name nofun (stringTail_print f.1) nofun
      refine ⟨_, print f.2, ?_, key, ih f mem⟩
      simp [printMember, printString]
    refine @Derives.compound .object _ ?_
    cases fields with
    | nil => exact derives_close .object false
    | cons f fields =>
      rw [printFields_cons]
      exact derives_cons entry

/-- **A printed value is passed over.** -/
theorem skipValue_print {n : Nat} {v : Json} (h : Plain n v) {rest : List Char}
    (ended : Delimited rest) : skipValue (print v ++ rest) = .ok rest := by
  obtain ⟨used, enough, passed⟩ := h.derives.passed
  have fuel : ∃ more, 2 * (print v ++ rest).length + 2 = used + (more + 1) + 1 := by
    refine ⟨2 * (print v ++ rest).length - used, ?_⟩
    rw [List.length_append]
    omega
  obtain ⟨more, fuel⟩ := fuel
  rw [skipValue, fuel, passed (more + 1) [] rest ended]
  rfl

end Colloquy.Json
