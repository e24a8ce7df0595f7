import Colloquy.Proofs.Output.Embedded
import Colloquy.Text.Utf8

/-! # Where an array or an object ends

The search for the closing bracket reads a text once, from the front.  What it has found does not
depend on what comes later, so it cannot end within an array or an object, which it is known to find
as a whole.  The main statement is `Output.closingOffset_exact`. -/

namespace Colloquy.Output

open Json (Frame Derives Compound)

/-- Where the bracket stands that closes the one at the start of a text: the number of bytes before
it. -/
def closingOffset (opening closing : Char) (s : List Char) : Option Nat :=
  (bracketed opening closing s).map fun span => (Utf8.encode span.dropLast).length

/-- Whether a text is an array, or an object, with nothing around it. -/
def Encloses (frame : Frame) (s : List Char) : Prop :=
  ∃ tail, s = frame.opening :: tail ∧ Derives (.rest frame false) tail

variable {opening closing : Char} {frame : Frame} {j s span : List Char}

/-- **`closeFrom` does not depend on what comes after the span.** -/
theorem closeFrom_append {depth : Nat} {inString escaped : Bool}
    (h : closeFrom opening closing depth inString escaped s = some span) (rest : List Char) :
    closeFrom opening closing depth inString escaped (s ++ rest) = some span := by
  induction s generalizing depth inString escaped span with
  | nil => cases h
  | cons c s ih =>
    -- In every state but the last one, the search goes on with the characters behind this one.
    have go : ∀ {depth : Nat} {inString escaped : Bool},
        (closeFrom opening closing depth inString escaped s).map (c :: ·) = some span →
        (closeFrom opening closing depth inString escaped (s ++ rest)).map (c :: ·) =
          some span := by
      intro depth inString escaped found
      obtain ⟨others, later, rfl⟩ := Option.map_eq_some_iff.mp found
      rw [ih later]
      rfl
    rw [List.cons_append, closeFrom]
    rw [closeFrom] at h
    by_cases hidden : escaped = true
    · rw [if_pos hidden] at h ⊢
      exact go h
    rw [if_neg hidden] at h ⊢
    by_cases backslash : (c = '\\' && inString) = true
    · rw [if_pos backslash] at h ⊢
      exact go h
    rw [if_neg backslash] at h ⊢
    by_cases quote : c = '"'
    · rw [if_pos quote] at h ⊢
      exact go h
    rw [if_neg quote] at h ⊢
    by_cases inside : inString = true
    · rw [if_pos inside] at h ⊢
      exact go h
    rw [if_neg inside] at h ⊢
    by_cases opens : c = opening
    · rw [if_pos opens] at h ⊢
      exact go h
    rw [if_neg opens] at h ⊢
    by_cases closes : c = closing
    · rw [if_pos closes] at h ⊢
      by_cases last : depth ≤ 1
      · rw [if_pos last] at h ⊢
        exact h
      · rw [if_neg last] at h ⊢
        exact go h
    · rw [if_neg closes] at h ⊢
      exact go h

/-- What is `bracketed` is so in every text that goes on. -/
theorem bracketed_append (h : bracketed opening closing s = some span) (rest : List Char) :
    bracketed opening closing (s ++ rest) = some span :=
  closeFrom_append h rest

/-- An array or an object is `bracketed` as a whole. -/
theorem Encloses.bracketed (h : Encloses frame j) (rest : List Char) :
    bracketed frame.opening frame.close (j ++ rest) = some j := by
  obtain ⟨tail, rfl, derives⟩ := h
  exact bracketed_compound derives rest

/-- The last character of an array or an object is its closing bracket. -/
theorem Encloses.dropLast_concat (h : Encloses frame j) : j.dropLast ++ [frame.close] = j := by
  obtain ⟨tail, rfl, derives⟩ := h
  obtain ⟨inner, rfl⟩ := derives.exists_close
  rw [← List.cons_append, List.dropLast_concat]

/-- **No beginning of an array or an object is `bracketed`.** -/
theorem Encloses.bracketed_prefix (h : Encloses frame j) (begins : s <+: j) (proper : s ≠ j) :
    Output.bracketed frame.opening frame.close s = none := by
  rw [← Option.not_isSome_iff_eq_none, Option.isSome_iff_exists]
  rintro ⟨span, found⟩
  obtain ⟨rest, rfl⟩ := begins
  -- The span would be closed at the same place in the whole text, which is closed at its end only.
  have whole := h.bracketed []
  rw [List.append_nil, bracketed_append found rest, Option.some.injEq] at whole
  have within : span.length ≤ s.length := (prefix_closeFrom found).length_le
  rw [whole, List.length_append] at within
  have ended : rest = [] := List.eq_nil_of_length_eq_zero (by omega)
  exact proper (by rw [ended, List.append_nil])

/-- **`closingOffset` finds the end of an array or an object exactly.**  Whatever comes after it,
the bracket that is found is its last character, and no text that breaks off before that character
has one. -/
theorem closingOffset_exact (h : Encloses frame j) :
    (∃ inner, j = inner ++ [frame.close] ∧ ∀ q,
      bracketed frame.opening frame.close (j ++ q) = some j ∧
      closingOffset frame.opening frame.close (j ++ q) = some (Utf8.encode inner).length) ∧
    ∀ p, p <+: j → p ≠ j → closingOffset frame.opening frame.close p = none := by
  constructor
  · refine ⟨j.dropLast, h.dropLast_concat.symm, fun q => ⟨h.bracketed q, ?_⟩⟩
    rw [closingOffset, h.bracketed q]
    rfl
  · intro p begins proper
    rw [closingOffset, h.bracketed_prefix begins proper]
    rfl

/-- Every array or object has its frame told by its first character. -/
theorem Encloses.of_compound (h : Compound j) (first : j.head? = some frame.opening) :
    Encloses frame j := by
  obtain ⟨other, tail, rfl, derives⟩ := h
  have same : other.opening = frame.opening := Option.some.inj first
  obtain rfl : other = frame := by
    cases other <;> cases frame <;> first | rfl | exact absurd same (by decide)
  exact ⟨tail, rfl, derives⟩

/-- An object with escaped quotes, a backslash at the end of a string, characters of several bytes
and brackets of both kinds, before more of them. -/
theorem closingOffset_exact_entangled :
    let j := "\x7b\"\\\"\x7d\": [\"é\x7b\\\\\", \x7b\x7d]\x7d".toList
    Encloses .object j ∧ closingOffset '{' '}' (j ++ "\x7d\"\x7b".toList) = some 21 ∧
      closingOffset '{' '}' (j.take 17) = none := by
  intro j
  have encloses : Encloses .object j := .of_compound (by decide +kernel) rfl
  obtain ⟨⟨inner, ends, located⟩, broken⟩ := closingOffset_exact encloses
  have before : inner = j.dropLast := by rw [ends, List.dropLast_concat]
  have bytes : (Utf8.encode inner).length = 21 := by
    rw [before]
    decide +kernel
  refine ⟨encloses, bytes ▸ (located _).2, broken _ (List.take_prefix 17 j) (by decide +kernel)⟩

end Colloquy.Output
