import Colloquy.Proofs.Output.Brackets
import Colloquy.Proofs.Output.Locate
import Mathlib.Data.List.DropRight

/-! # Finding what was embedded

An array or an object that is put into prose, or into a fenced block after prose, is found again as
it was.  What could come before it is the text as a whole, which is well-formed JSON only if nothing
but blanks surrounds the value, and the first fenced block, which a fence within one of the value's
strings may cut short; the first bracketed span is always the value. -/

namespace Colloquy.Text

/-! ## Trimming around a character -/

variable {c : Char}

/-- Blanks at the start are dropped up to a character that is none. -/
theorem trimStart_append_cons (visible : isBlank c = false) (s t : List Char) :
    trimStart (s ++ c :: t) = trimStart s ++ c :: t := by
  rw [trimStart, trimStart, List.dropWhile_append]
  split
  · next blank => simp [List.isEmpty_iff.mp blank, visible]
  · rfl

/-- Blanks at the end are dropped back to a character that is none. -/
theorem trimEnd_append_cons (visible : isBlank c = false) (s t : List Char) :
    trimEnd (s ++ c :: t) = s ++ c :: trimEnd t := by
  have backwards := trimStart_append_cons visible t.reverse s.reverse
  have reversed : (s ++ c :: t).reverse = t.reverse ++ c :: s.reverse := by simp
  rw [trimStart] at backwards
  rw [trimEnd, reversed, backwards]
  simp [trimEnd, trimStart]

/-- Both ends of a text are trimmed on their own, if a character between them is no blank. -/
theorem trim_append_cons (visible : isBlank c = false) (s t : List Char) :
    trim (s ++ c :: t) = trimStart s ++ c :: trimEnd t := by
  rw [trim, trimStart_append_cons visible, trimEnd_append_cons visible]

/-- A text that was trimmed at its start has no blanks there. -/
theorem trimStart_trimStart (s : List Char) : trimStart (trimStart s) = trimStart s :=
  List.dropWhile_idempotent isBlank s

/-- A text that was trimmed at its end has no blanks there. -/
theorem trimEnd_trimEnd (s : List Char) : trimEnd (trimEnd s) = trimEnd s := by
  rw [trimEnd, trimEnd, List.reverse_reverse, List.dropWhile_idempotent]

/-- Nothing is left of blanks at the start. -/
theorem trimStart_of_blank {s : List Char} (blank : ∀ c ∈ s, isBlank c = true) :
    trimStart s = [] :=
  List.dropWhile_eq_nil_iff.mpr blank

/-- Nothing is left of blanks at the end. -/
theorem trimEnd_of_blank {s : List Char} (blank : ∀ c ∈ s, isBlank c = true) :
    trimEnd s = [] := by
  rw [trimEnd, List.dropWhile_eq_nil_iff.mpr (by simpa using blank), List.reverse_nil]

end Colloquy.Text

namespace Colloquy.Output

open Json (Frame Derives Scalar Blanks Compound IsText)

/-! ## Arrays and objects within a text -/

/-- Whether a character begins an array, an object or a string. -/
def isMark (c : Char) : Bool := opensSpan c || c = '"'

/-- Whether no array, object or string begins within a text. -/
def Unmarked (s : List Char) : Prop := ∀ c ∈ s, isMark c = false

instance (s : List Char) : Decidable (Unmarked s) :=
  List.decidableBAll (fun c => isMark c = false) s

/-- The first mark of a text is found. -/
theorem dropWhile_unmarked {s : List Char} (unmarked : Unmarked s) {c : Char}
    (mark : isMark c = true) (t : List Char) :
    (s ++ c :: t).dropWhile (fun c => !isMark c) = c :: t := by
  have passed : ∀ c ∈ s, (!isMark c) = true := fun c mem => by rw [unmarked c mem]; rfl
  rw [List.dropWhile_append_of_pos passed, List.dropWhile_cons_of_neg (by simp [mark])]

/-- A text has one first mark. -/
theorem first_mark {s s' t t' : List Char} {c c' : Char} (hs : Unmarked s) (hc : isMark c = true)
    (hs' : Unmarked s') (hc' : isMark c' = true) (same : s ++ c :: t = s' ++ c' :: t') :
    c :: t = c' :: t' := by
  rw [← dropWhile_unmarked hs hc, same, dropWhile_unmarked hs' hc']

/-- Brackets that open a frame are marks, and no blanks. -/
theorem opening_mark (frame : Frame) :
    isMark frame.opening = true ∧ Text.isBlank frame.opening = false := by
  cases frame <;> decide

/-- Blanks between tokens are blanks. -/
theorem isBlank_of_blanks {s : List Char} (h : Blanks s) : ∀ c ∈ s, Text.isBlank c = true := by
  intro c mem
  rcases Json.isSpace_iff.mp (h c mem) with rfl | rfl | rfl | rfl <;> decide

/-- Blanks are no marks. -/
theorem unmarked_of_blanks {s : List Char} (h : Blanks s) : Unmarked s := by
  intro c mem
  rcases Json.isSpace_iff.mp (h c mem) with rfl | rfl | rfl | rfl <;> decide

/-- No array or object begins within a scalar with blanks around it. -/
theorem unopened_of_scalar {before s after : List Char} (hb : Blanks before) (h : Scalar s)
    (ha : Blanks after) (frame : Frame) : frame.opening ∉ before ++ (s ++ after) := by
  simp only [List.mem_append]
  rintro (mem | mem | mem)
  · exact (ordinary_of_isSpace frame (hb _ mem)).2.1 rfl
  · exact (ordinary_of_scalar frame h _ mem).2.1 rfl
  · exact (ordinary_of_isSpace frame (ha _ mem)).2.1 rfl

/-- Trimming a text leaves an array or an object in it as it is. -/
theorem trim_compound {j : List Char} (h : Compound j) (p q : List Char) :
    Text.trim (p ++ (j ++ q)) = Text.trimStart p ++ (j ++ Text.trimEnd q) := by
  obtain ⟨frame, tail, rfl, rest⟩ := h
  obtain ⟨inner, rfl⟩ := rest.exists_close
  have visible : Text.isBlank frame.close = false := by cases frame <;> decide
  have ends := Text.trimEnd_append_cons visible inner q
  rw [List.cons_append, Text.trim_append_cons (opening_mark frame).2, List.append_assoc,
    List.singleton_append, ends]
  simp

/-- **A text that begins an array or an object is JSON only if it is that value**: with anything
but blanks around it, or cut short, the value is no JSON text. -/
theorem trim_eq_of_wellFormed {u j m r : List Char} {frame : Frame} (unmarked : Unmarked u)
    (h : Compound j) (begins : frame.opening :: m <+: j ++ r)
    (valid : Json.wellFormed (Text.trim (u ++ frame.opening :: m)) = true) :
    Text.trim (u ++ frame.opening :: m) = j := by
  obtain ⟨mark, visible⟩ := opening_mark frame
  have trimmed := Text.trim_append_cons visible u m
  have unmarked' : Unmarked (Text.trimStart u) := fun c mem =>
    unmarked c ((Text.suffix_trimStart u).subset mem)
  obtain ⟨before, value, after, text, hb, hv, ha⟩ := Json.wellFormed_iff.mp valid
  have text' := trimmed.symm.trans text
  cases hv with
  | scalar scalar =>
    refine absurd ?_ (unopened_of_scalar hb scalar ha frame)
    rw [← text']
    simp
  | @string s string =>
    -- The value would begin with a quote, where there is a bracket.
    have quoted : isMark '"' = true := rfl
    have marks := first_mark unmarked' mark (unmarked_of_blanks hb) quoted text'
    have quote : frame.opening ≠ '"' := by cases frame <;> decide
    exact absurd (List.cons.inj marks).1 quote
  | @compound frame' s rest =>
    have value := (⟨frame', s, rfl, rest⟩ : Compound (frame'.opening :: s))
    have marks : frame.opening :: Text.trimEnd m = frame'.opening :: s ++ after :=
      first_mark unmarked' mark (unmarked_of_blanks hb) (opening_mark frame').1 text'
    -- The value begins what the embedded one begins, so it is the embedded one.
    obtain ⟨more, continued⟩ : frame'.opening :: s ++ after <+: j ++ r := by
      rw [← marks]
      exact ((List.prefix_cons_inj _).mpr (Text.prefix_trimEnd m)).trans begins
    have found : frame'.opening :: s = j :=
      compound_unique (q := after ++ more) value h (by rw [← List.append_assoc, continued])
    -- There is nothing around it, as the text was trimmed.
    have whole : Text.trim (before ++ (j ++ after)) = before ++ (j ++ after) := by
      rw [← found, ← text, trimmed, Text.trim_append_cons visible, Text.trimStart_trimStart,
        Text.trimEnd_trimEnd]
    rw [text, found, ← whole, trim_compound h, Text.trimStart_of_blank (isBlank_of_blanks hb),
      Text.trimEnd_of_blank (isBlank_of_blanks ha), List.nil_append, List.append_nil]

/-! ## Fences -/

/-- The three backticks that begin and end a fenced block. -/
def fence : List Char := "```".toList

/-- `isFence` tells whether a text begins with `fence`. -/
theorem isFence_iff {s : List Char} : isFence s = true ↔ fence <+: s := by
  rcases s with _ | ⟨a, _ | ⟨b, _ | ⟨c, s⟩⟩⟩ <;>
    simp [isFence, fence, List.cons_prefix_cons, @eq_comm Char '\x60', and_assoc]

/-- A fence does not reach up to another character. -/
theorem isFence_append_cons {c : Char} (other : c ≠ '\x60') (s t : List Char) :
    isFence (s ++ c :: t) = isFence s := by
  rw [Bool.eq_iff_iff, isFence_iff, isFence_iff]
  rcases s with _ | ⟨a, _ | ⟨b, _ | ⟨d, s⟩⟩⟩ <;>
    simp [fence, List.cons_prefix_cons, other.symm]

/-- `splitFence` splits no text without a fence. -/
theorem splitFence_eq_none {s : List Char} (unfenced : ¬ fence <:+: s) : splitFence s = none := by
  induction s with
  | nil => rfl
  | cons c s ih =>
    rw [List.infix_cons_iff, not_or, ← isFence_iff] at unfenced
    rw [splitFence, if_neg unfenced.1, ih unfenced.2, Option.map_none]

/-- A text that holds no fence is passed over, with a character that belongs to none. -/
theorem splitFence_append_cons {s : List Char} (unfenced : ¬ fence <:+: s) {c : Char}
    (other : c ≠ '\x60') (t : List Char) :
    splitFence (s ++ c :: t) = (splitFence t).map fun r => (s ++ c :: r.1, r.2) := by
  induction s with
  | nil =>
    have outside : isFence (c :: t) = false := isFence_append_cons other [] t
    rw [List.nil_append, splitFence, outside]
    rfl
  | cons d s ih =>
    rw [List.infix_cons_iff, not_or, ← isFence_iff, Bool.not_eq_true] at unfenced
    have outside := isFence_append_cons other (d :: s) t
    rw [List.cons_append] at outside ⊢
    rw [splitFence, outside, unfenced.1, ih unfenced.2, Option.map_map]
    rfl

/-- The backticks that may stand before a fence without being one. -/
def ticks : List (List Char) := [[], ['\x60'], ['\x60', '\x60']]

/-- A fence is found after a text that holds none; if the text ends with backticks, it is found that
much earlier. -/
theorem exists_splitFence {p : List Char} (unfenced : ¬ fence <:+: p) (r : List Char) :
    ∃ before, ∃ t ∈ ticks, splitFence (p ++ (fence ++ r)) = some (before, t ++ r) := by
  induction p with
  | nil => exact ⟨[], [], by simp [ticks], rfl⟩
  | cons c p ih =>
    rw [List.infix_cons_iff, not_or] at unfenced
    rw [List.cons_append, splitFence]
    split
    · next start =>
      rw [isFence_iff] at start
      rcases p with _ | ⟨d, _ | ⟨e, p⟩⟩
      · exact ⟨[], ['\x60'], by simp [ticks], by simp [fence]⟩
      · exact ⟨[], ['\x60', '\x60'], by simp [ticks], by simp_all [fence, List.cons_prefix_cons]⟩
      · exact absurd (by simpa [fence, List.cons_prefix_cons] using start) unfenced.1
    · obtain ⟨before, t, mem, split⟩ := ih unfenced.2
      exact ⟨c :: before, t, mem, by rw [split]; rfl⟩

/-- The languages that an opening of a fenced block may name. -/
def languages : List (List Char) := ["json".toList, []]

/-- What stands on the line of the opening holds no fence of its own, and no mark. -/
theorem opening_line {t language : List Char} (mem : t ∈ ticks) (known : language ∈ languages) :
    ¬ fence <:+: t ++ (language ++ ['\n']) ∧ Unmarked (t ++ (language ++ ['\n'])) := by
  have each : ∀ t ∈ ticks, ∀ language ∈ languages,
      ¬ fence <:+: t ++ (language ++ ['\n']) ∧ Unmarked (t ++ (language ++ ['\n'])) := by
    decide
  exact each t mem language known

/-- The language is dropped, if it is named right after the fence that was found. -/
theorem dropLanguage_opening {t language : List Char} (mem : t ∈ ticks)
    (known : language ∈ languages) (s : List Char) :
    dropLanguage (t ++ (language ++ ['\n']) ++ s) = ['\n'] ++ s ∨
      dropLanguage (t ++ (language ++ ['\n']) ++ s) = t ++ (language ++ ['\n']) ++ s := by
  simp only [ticks, languages, List.mem_cons, List.not_mem_nil, or_false] at mem known
  rcases mem with rfl | rfl | rfl <;> rcases known with rfl | rfl <;>
    first | exact .inl rfl | exact .inr rfl

/-- **`fencedBlock` begins with what follows the opening of the block**, as long as that is no fence
itself. -/
theorem fencedBlock_opened {p language s block : List Char} {c : Char} (unfenced : ¬ fence <:+: p)
    (known : language ∈ languages) (other : c ≠ '\x60')
    (h : fencedBlock (p ++ (fence ++ (language ++ '\n' :: c :: s))) = some block) :
    ∃ u m, Unmarked u ∧ m <+: s ∧ block = Text.trim (u ++ c :: m) := by
  obtain ⟨before, t, mem, first⟩ := exists_splitFence unfenced (language ++ '\n' :: c :: s)
  have line : t ++ (language ++ '\n' :: c :: s) = t ++ (language ++ ['\n']) ++ c :: s := by simp
  obtain ⟨passed, unmarked⟩ := opening_line mem known
  simp only [fencedBlock, first, line, splitFence_append_cons passed other,
    Option.bind_eq_bind, Option.bind_some, Option.bind_eq_some_iff, Option.map_eq_some_iff,
    Prod.exists] at h
  obtain ⟨_, _, ⟨m, after, second, parts⟩, same⟩ := h
  obtain ⟨rfl, rfl⟩ := Prod.mk.inj parts
  obtain rfl := Option.some.inj same
  rcases dropLanguage_opening mem known (c :: m) with dropped | kept
  · exact ⟨['\n'], m, by decide, (splitFence_parts second).1, by rw [dropped]⟩
  · exact ⟨_, m, unmarked, (splitFence_parts second).1, by rw [kept]⟩

/-! ## What is found -/

/-- An array or an object is JSON text. -/
theorem wellFormed_compound {j : List Char} (h : Compound j) : Json.wellFormed j = true := by
  obtain ⟨frame, tail, rfl, rest⟩ := h
  exact Json.wellFormed_iff.mpr ⟨[], _, [], by simp, nofun, .compound rest, nofun⟩

/-- **Arrays and objects are the JSON texts that begin with a bracket and end without a blank.** -/
theorem compound_iff {j : List Char} :
    Compound j ↔ Json.wellFormed j = true ∧ j.head?.any opensSpan = true ∧
      j.getLast?.any Json.isSpace = false := by
  constructor
  · intro h
    refine ⟨wellFormed_compound h, ?_⟩
    obtain ⟨frame, tail, rfl, rest⟩ := h
    obtain ⟨inner, rfl⟩ := rest.exists_close
    rw [← List.cons_append, List.getLast?_concat]
    cases frame <;> exact ⟨rfl, rfl⟩
  · rintro ⟨valid, opens, ends⟩
    obtain ⟨before, value, after, rfl, hb, hv, ha⟩ := Json.wellFormed_iff.mp valid
    obtain rfl : before = [] := by
      cases before with
      | nil => rfl
      | cons c before =>
        have mark : isMark c = true := by simp [isMark, show opensSpan c = true from opens]
        rw [unmarked_of_blanks hb c List.mem_cons_self] at mark
        cases mark
    obtain rfl : after = [] := by
      rcases List.eq_nil_or_concat after with rfl | ⟨after, c, rfl⟩
      · rfl
      · have last : Json.isSpace c = false := by simpa [← List.append_assoc] using ends
        rw [ha c (by simp)] at last
        cases last
    rw [List.nil_append, List.append_nil] at opens ⊢
    cases hv with
    | scalar scalar =>
      obtain ⟨c, t, rfl, -, -, -, list, object⟩ := scalar.opening
      simp [opensSpan, list, object] at opens
    | string => cases opens
    | compound rest => exact ⟨_, _, rfl, rest⟩

instance (j : List Char) : Decidable (Compound j) := decidable_of_iff _ compound_iff.symm

/-- **`locate` finds an array or an object**, unless the first fenced block holds another value. -/
theorem locate_of_fencedBlock {u j : List Char} (unmarked : Unmarked u) (h : Compound j)
    (r : List Char)
    (block : ∀ s, fencedBlock (Text.trimStart u ++ (j ++ Text.trimEnd r)) = some s →
      Json.wellFormed s = true → s = j) :
    locate (u ++ (j ++ r)) = some j := by
  have whole : ∀ s, accept (some (Text.trim (u ++ (j ++ r)))) = some s → s = j := by
    intro s accepted
    obtain ⟨same, valid⟩ := accept_eq_some.mp accepted
    obtain rfl := Option.some.inj same
    obtain ⟨frame, tail, rfl, rest⟩ := id h
    exact trim_eq_of_wellFormed unmarked h List.prefix_rfl valid
  have trimmed := trim_compound h u r
  have block' : ∀ s, accept (fencedBlock (Text.trim (u ++ (j ++ r)))) = some s → s = j := by
    intro s accepted
    obtain ⟨found, valid⟩ := accept_eq_some.mp accepted
    exact block s (trimmed ▸ found) valid
  have span : accept (firstSpan (Text.trim (u ++ (j ++ r)))) = some j := by
    have before : ∀ c ∈ Text.trimStart u, opensSpan c = false := fun c mem =>
      (Bool.or_eq_false_iff.mp (unmarked c ((Text.suffix_trimStart u).subset mem))).1
    rw [trimmed, firstSpan_compound before h]
    exact accept_eq_some.mpr ⟨rfl, wellFormed_compound h⟩
  rw [locate]
  cases first : accept (some (Text.trim (u ++ (j ++ r)))) with
  | some s => rw [Option.some_or, whole s first]
  | none =>
    cases second : accept (fencedBlock (Text.trim (u ++ (j ++ r)))) with
    | some s => rw [Option.none_or, Option.some_or, block' s second]
    | none => rw [Option.none_or, Option.none_or, span]

/-- **`locate` finds an array or an object in prose.** -/
theorem locate_prose {p j q : List Char} (unmarked : Unmarked p) (h : Compound j)
    (unfenced : ¬ fence <:+: p ++ (j ++ q)) : locate (p ++ (j ++ q)) = some j := by
  refine locate_of_fencedBlock unmarked h q fun s found _ => ?_
  have part := Text.infix_trim (p ++ (j ++ q))
  rw [trim_compound h] at part
  rw [fencedBlock, splitFence_eq_none fun fenced => unfenced (fenced.trans part)] at found
  cases found

/-- **`locate` finds an array or an object in a fenced block**, whether or not the block is closed
where it seems to be. -/
theorem locate_fenced {p language j : List Char} (unmarked : Unmarked p) (unfenced : ¬ fence <:+: p)
    (known : language ∈ languages) (h : Compound j) (r : List Char) :
    locate (p ++ (fence ++ (language ++ '\n' :: (j ++ r)))) = some j := by
  have line : Unmarked (fence ++ (language ++ ['\n'])) := by
    have each : ∀ language ∈ languages, Unmarked (fence ++ (language ++ ['\n'])) := by decide
    exact each language known
  have unmarked' : Unmarked (p ++ (fence ++ (language ++ ['\n']))) :=
    List.forall_mem_append.mpr ⟨unmarked, line⟩
  have text : p ++ (fence ++ (language ++ '\n' :: (j ++ r))) =
      p ++ (fence ++ (language ++ ['\n'])) ++ (j ++ r) := by simp
  rw [text]
  refine locate_of_fencedBlock unmarked' h r fun s found valid => ?_
  -- Trimming reaches only the text before the fence and the text after the value.
  have trimmed : Text.trimStart (p ++ (fence ++ (language ++ ['\n']))) =
      Text.trimStart p ++ (fence ++ (language ++ ['\n'])) :=
    Text.trimStart_append_cons (c := '\x60') (by decide) p _
  have unfenced' : ¬ fence <:+: Text.trimStart p := fun fenced =>
    unfenced (fenced.trans (Text.suffix_trimStart p).isInfix)
  obtain ⟨frame, tail, rfl, rest⟩ := id h
  have other : frame.opening ≠ '\x60' := by cases frame <;> decide
  rw [trimmed] at found
  obtain ⟨u, m, hu, hm, rfl⟩ := fencedBlock_opened (s := tail ++ Text.trimEnd r) unfenced' known
    other (by simpa using found)
  have begins : frame.opening :: m <+: frame.opening :: tail ++ Text.trimEnd r :=
    (List.prefix_cons_inj _).mpr hm
  exact trim_eq_of_wellFormed hu h begins valid

/-- **What is embedded is found, and what is found is there.**  An array or an object is found in
prose that holds no fence, and in a fenced block after such prose whatever its strings hold; the
text before it holds neither a bracket that opens another value nor a quote.  Whatever is found in a
text is a contiguous part of it and is JSON. -/
theorem locate_embedded :
    (∀ p j q, Unmarked p → ¬ fence <:+: p → Compound j →
      (¬ fence <:+: p ++ (j ++ q) → locate (p ++ (j ++ q)) = some j) ∧
      ∀ opening ∈ ["```json\n".toList, "```\n".toList],
        locate (p ++ (opening ++ (j ++ ("\n```".toList ++ q)))) = some j) ∧
    ∀ text s, locate text = some s → s <:+: Text.trim text ∧ IsText s := by
  refine ⟨fun p j q unmarked unfenced h => ⟨locate_prose unmarked h, fun opening mem => ?_⟩,
    fun text s found => ?_⟩
  · have lines : ∃ language ∈ languages, opening = fence ++ (language ++ ['\n']) := by
      revert opening
      decide
    obtain ⟨language, known, rfl⟩ := lines
    simpa using locate_fenced unmarked unfenced known h ("\n```".toList ++ q)
  · obtain ⟨part, valid⟩ := locate_sound found
    exact ⟨part, Json.wellFormed_iff.mp valid⟩

/-- The search for an object whose strings hold a fence, brackets and escaped quotes, in a fenced
block after prose that ends with a backtick, and for an array in prose without a fence. -/
theorem locate_embedded_awkward :
    let p := "Here: \x60".toList
    let j := "\x7b\"a\": \"``` ]\x7d \\\" \x7b\",\n  \"b\": [ -1.5e3, [], null ] \x7d".toList
    let k := "[\"\x7d ] `\", 2]".toList
    let q := "\n]\x7d ok? \x7b\"c\"".toList
    (Unmarked p ∧ ¬ fence <:+: p ∧ Compound j ∧
      locate (p ++ ("```json\n".toList ++ (j ++ ("\n```".toList ++ q)))) = some j) ∧
    (Compound k ∧ ¬ fence <:+: p ++ (k ++ q) ∧ locate (p ++ (k ++ q)) = some k) ∧
    k <:+: Text.trim (p ++ (k ++ q)) := by
  intro p j k q
  have hp : Unmarked p := by decide +kernel
  have hf : ¬ fence <:+: p := by decide +kernel
  have hj : Compound j := by decide +kernel
  have hk : Compound k := by decide +kernel
  have unfenced : ¬ fence <:+: p ++ (k ++ q) := by decide +kernel
  have fenced := (locate_embedded.1 p j q hp hf hj).2 "```json\n".toList (by simp)
  have prose := (locate_embedded.1 p k q hp hf hk).1 unfenced
  exact ⟨⟨hp, hf, hj, fenced⟩, ⟨hk, unfenced, prose⟩, (locate_embedded.2 _ k prose).1⟩

end Colloquy.Output
