import Colloquy.Output.Locate

/-! # What is found is a part of the text

Every step of finding JSON in prose takes a contiguous part of what it is given: trimming, the
fenced block, the bracketed span.  The main statement is `Output.locate_sound`: whatever is found is
a contiguous part of the text and well-formed JSON. -/

namespace Colloquy.Text

/-- `trimStart s` is an end of `s`. -/
theorem suffix_trimStart (s : List Char) : trimStart s <:+ s := List.dropWhile_suffix _

/-- `trimEnd s` is a start of `s`. -/
theorem prefix_trimEnd (s : List Char) : trimEnd s <+: s := by
  have := List.dropWhile_suffix (l := s.reverse) isBlank
  rwa [← List.reverse_prefix, List.reverse_reverse] at this

/-- **`trim s` is a contiguous part of `s`.** -/
theorem infix_trim (s : List Char) : trim s <:+: s :=
  (prefix_trimEnd _).isInfix.trans (suffix_trimStart s).isInfix

end Colloquy.Text

namespace Colloquy.Output

/-! ## Candidates -/

/-- The span that `closeFrom` closes begins the text. -/
theorem prefix_closeFrom {opening closing : Char} {depth : Nat} {inString escaped : Bool}
    {s span : List Char} (h : closeFrom opening closing depth inString escaped s = some span) :
    span <+: s := by
  induction s generalizing depth inString escaped span with
  | nil => cases h
  | cons c s ih =>
    -- Whatever the scanner goes on with, it puts the character in front of what it finds.
    have go : ∀ {depth : Nat} {inString escaped : Bool},
        (closeFrom opening closing depth inString escaped s).map (c :: ·) = some span →
        span <+: c :: s := by
      intro depth inString escaped hgo
      obtain ⟨rest, found, rfl⟩ := Option.map_eq_some_iff.mp hgo
      exact (List.prefix_cons_inj c).mpr (ih found)
    rw [closeFrom] at h
    repeat' split at h
    all_goals try exact go h
    obtain rfl := Option.some.inj h
    exact List.prefix_append [c] s

/-- `firstSpan` is a contiguous part. -/
theorem infix_firstSpan {s span : List Char} (h : firstSpan s = some span) : span <:+: s := by
  have rest : (s.dropWhile fun c => !opensSpan c) <:+ s := List.dropWhile_suffix _
  rw [firstSpan] at h
  split at h
  · cases h
  · next c t ht =>
    rw [ht] at rest
    split at h
    · exact (prefix_closeFrom h).isInfix.trans rest.isInfix
    · exact (prefix_closeFrom h).isInfix.trans rest.isInfix

/-- The parts around the first fence are the start and the end of the text. -/
theorem splitFence_parts {s before after : List Char} (h : splitFence s = some (before, after)) :
    before <+: s ∧ after <:+ s := by
  induction s generalizing before with
  | nil => cases h
  | cons c s ih =>
    rw [splitFence] at h
    split at h
    · obtain ⟨rfl, rfl⟩ := Prod.mk.inj (Option.some.inj h)
      exact ⟨List.nil_prefix, (List.drop_suffix 2 s).trans (List.suffix_cons c s)⟩
    · obtain ⟨⟨b, t⟩, split, parts⟩ := Option.map_eq_some_iff.mp h
      obtain ⟨rfl, rfl⟩ := Prod.mk.inj parts
      obtain ⟨start, tail⟩ := ih split
      exact ⟨(List.prefix_cons_inj c).mpr start, tail.trans (List.suffix_cons c s)⟩

/-- `dropLanguage s` is an end of `s`. -/
theorem suffix_dropLanguage (s : List Char) : dropLanguage s <:+ s := by
  unfold dropLanguage
  split
  · exact ⟨['j', 's', 'o', 'n'], rfl⟩
  · exact List.suffix_rfl

/-- `fencedBlock` is a contiguous part. -/
theorem infix_fencedBlock {s block : List Char} (h : fencedBlock s = some block) :
    block <:+: s := by
  simp only [fencedBlock, Option.bind_eq_bind, Option.bind_eq_some_iff, Prod.exists] at h
  obtain ⟨before, rest, first, inner, after, second, same⟩ := h
  obtain rfl := Option.some.inj same
  have h₁ : Text.trim (dropLanguage inner) <:+: inner :=
    (Text.infix_trim _).trans (suffix_dropLanguage inner).isInfix
  have h₂ : inner <:+: rest := (splitFence_parts second).1.isInfix
  have h₃ : rest <:+: s := (splitFence_parts first).2.isInfix
  exact (h₁.trans h₂).trans h₃

/-! ## The choice among them -/

/-- `accept` gives the candidate, if it is well-formed. -/
theorem accept_eq_some {candidate : Option (List Char)} {s : List Char} :
    accept candidate = some s ↔ candidate = some s ∧ Json.wellFormed s = true :=
  Option.filter_eq_some_iff

/-- **What `locate` finds is a part of the text**: a contiguous part of the trimmed text, and one
well-formed JSON value. -/
theorem locate_sound {text s : List Char} (h : locate text = some s) :
    s <:+: Text.trim text ∧ Json.wellFormed s = true := by
  simp only [locate, Option.or_eq_some_iff, accept_eq_some] at h
  rcases h with ⟨whole, valid⟩ | ⟨-, ⟨block, valid⟩ | ⟨-, span, valid⟩⟩
  · obtain rfl := Option.some.inj whole
    exact ⟨List.infix_rfl, valid⟩
  · exact ⟨infix_fencedBlock block, valid⟩
  · exact ⟨infix_firstSpan span, valid⟩

end Colloquy.Output
