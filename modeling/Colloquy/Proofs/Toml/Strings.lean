import Colloquy.Toml.Print
import Colloquy.Toml.Value
import Mathlib.Data.List.Basic

/-! # Strings of a TOML document read back

What stands between the marks of a string is one thing when it is written and another when it is
read, and `Toml.Shown` is the grammar that both have in common: characters that show as they are,
escapes, and in a block line feeds and up to two marks in a row.  Every layout that the printer
chooses keeps to it, and both readers follow it up to the closing marks, so a string reads back
(`Toml.string_printString`), and so does a name (`Toml.name_printName`). -/

namespace Colloquy.Toml

open Quotation (foldedLine?)

/-! ## What strings show -/

/-- Whether a word is the escape of a character, after its backslash. -/
structure Escape (word : List Char) (c : Char) : Prop where
  /-- The word is read as the character. -/
  read : ∀ rest, escape (word ++ rest) = some (c, rest)
  /-- It is not the end of a line. -/
  solid : ∀ rest, foldedLine? (word ++ rest) = none

/-- What a text between marks stands for, after some marks in a row. -/
inductive Shown (l : Layout) : Nat → List Char → List Char → Prop where
  /-- Nothing stands for nothing. -/
  | nil {run : Nat} : Shown l run [] []
  /-- In a block, up to two marks in a row stand for themselves. -/
  | mark {run : Nat} {text s : List Char} (block : l.block = true) (few : run < 2)
    (rest : Shown l (run + 1) text s) :
    Shown l run (l.quotation.mark :: text) (l.quotation.mark :: s)
  /-- In a block, a line feed stands for itself. -/
  | feed {run : Nat} {text s : List Char} (block : l.block = true) (rest : Shown l 0 text s) :
    Shown l run ('\n' :: text) ('\n' :: s)
  /-- Other characters stand for themselves, except for backslashes where these begin escapes. -/
  | plain {run : Nat} {c : Char} {text s : List Char} (other : c ≠ l.quotation.mark)
    (plain : isPlain c = true) (solid : l.quotation.escapes = true → c ≠ '\\')
    (rest : Shown l 0 text s) : Shown l run (c :: text) (c :: s)
  /-- An escape stands for its character. -/
  | escape {run : Nat} {c : Char} {word text s : List Char} (escapes : l.quotation.escapes = true)
    (word' : Escape word c) (rest : Shown l 0 text s) :
    Shown l run ('\\' :: (word ++ text)) (c :: s)

/-- The marks of all layouts are neither backslashes nor ends of lines. -/
theorem mark_ne : ∀ l ∈ Layout.all, l.quotation.mark ≠ '\\' ∧ l.quotation.mark ≠ '\n' ∧
    l.quotation.mark ≠ '\r' := by
  decide

/-- A character is plain unless it is a control. -/
theorem isPlain_of_isControl {c : Char} (h : isControl c = false) : isPlain c = true := by
  simp only [isControl, isPlain, Bool.or_eq_false_iff, Bool.and_eq_false_iff, decide_eq_false_iff_not,
    bne_eq_false_iff_eq, beq_eq_false_iff_ne, Bool.or_eq_true, Bool.and_eq_true, decide_eq_true_eq,
    bne_iff_ne] at h ⊢
  obtain ⟨low | tab, delete⟩ := h
  · exact .inr ⟨by omega, delete⟩
  · exact .inl tab

/-! ## Escapes -/

/-- Upper case digits have their values. -/
theorem hexValue?_upperDigit : ∀ n < 16, Json.hexValue? (upperDigit n) = some n := by decide

/-- **A control character is escaped by its code.** -/
theorem escape_control {c : Char} (h : isControl c = true) :
    Escape ['u', '0', '0', upperDigit (c.toNat / 16), upperDigit (c.toNat % 16)] c := by
  have small : c.toNat < 128 := by
    simp only [isControl, Bool.or_eq_true, Bool.and_eq_true, decide_eq_true_eq, beq_iff_eq] at h
    omega
  have zero : Json.hexValue? '0' = some 0 := by decide
  have high := hexValue?_upperDigit (c.toNat / 16) (by omega)
  have low := hexValue?_upperDigit (c.toNat % 16) (by omega)
  have code : c.toNat / 16 * 16 + c.toNat % 16 = c.toNat := by omega
  refine ⟨fun rest => ?_, fun rest => rfl⟩
  have valid : c.toNat.isValidChar := .inl (by omega)
  simp [escape, codePoint, hexNumber?, zero, high, low, code, Char.ofNat_toNat, valid]

/-- A letter after a backslash stands for its character. -/
theorem Shown.letter {l : Layout} {run : Nat} {x c : Char} {text s : List Char}
    (escapes : l.quotation.escapes = true) (letter : Escape [x] c) (rest : Shown l 0 text s) :
    Shown l run ('\\' :: x :: text) (c :: s) :=
  .escape escapes letter rest

/-- **Escaping shows any string**, in either layout with escapes. -/
theorem shown_escapeAll (block : Bool) (run : Nat) (s : List Char) :
    Shown ⟨.basic, block⟩ run (escapeAll block run s) s := by
  induction s generalizing run with
  | nil => exact .nil
  | cons c s ih =>
    rw [escapeAll]
    by_cases quote : c = '"'
    · rw [if_pos quote, quote]
      by_cases few : block = true ∧ run < 2
      · rw [if_pos (by simpa using few)]
        exact .mark few.1 few.2 (ih _)
      · rw [if_neg (by simpa using few)]
        exact .letter rfl ⟨fun _ => rfl, fun _ => rfl⟩ (ih 0)
    rw [if_neg quote, escapeChar]
    split_ifs with backspace tab feed shows form return' slash control
    · subst backspace
      exact .letter rfl ⟨fun _ => rfl, fun _ => rfl⟩ (ih 0)
    · subst tab
      exact .letter rfl ⟨fun _ => rfl, fun _ => rfl⟩ (ih 0)
    · subst feed
      exact .feed shows (ih 0)
    · subst feed
      exact .letter rfl ⟨fun _ => rfl, fun _ => rfl⟩ (ih 0)
    · subst form
      exact .letter rfl ⟨fun _ => rfl, fun _ => rfl⟩ (ih 0)
    · subst return'
      exact .letter rfl ⟨fun _ => rfl, fun _ => rfl⟩ (ih 0)
    · subst slash
      exact .letter rfl ⟨fun _ => rfl, fun _ => rfl⟩ (ih 0)
    · exact .escape rfl (escape_control control) (ih 0)
    · exact .plain quote (isPlain_of_isControl (by simpa using control)) (fun _ => slash) (ih 0)

/-! ## Characters as they are -/

/-- The longest run is no shorter than the one under way. -/
theorem le_longestRun (c : Char) (run : Nat) (s : List Char) : run ≤ longestRun c run s := by
  induction s generalizing run with
  | nil => exact Nat.le_refl _
  | cons d s ih =>
    rw [longestRun]
    split_ifs
    · exact Nat.le_trans (Nat.le_succ _) (ih _)
    · exact Nat.le_max_left _ _

/-- **A string without controls shows as it is** where nothing is escaped and few marks follow each
other. -/
theorem shown_self {l : Layout} (literal : l.quotation.escapes = false) {run : Nat} {s : List Char}
    (visible : ∀ c ∈ s, isControl c = true → l.block = true ∧ c = '\n')
    (few : longestRun l.quotation.mark run s ≤ if l.block then 2 else 0) : Shown l run s s := by
  induction s generalizing run with
  | nil => exact .nil
  | cons c s ih =>
    obtain ⟨here, others⟩ := List.forall_mem_cons.mp visible
    rw [longestRun] at few
    by_cases mark : c = l.quotation.mark
    · rw [if_pos mark] at few
      have longer := le_longestRun l.quotation.mark (run + 1) s
      have block : l.block = true := by
        by_contra line
        rw [if_neg line] at few
        omega
      have shown := ih others few
      rw [if_pos block] at few
      rw [mark]
      exact .mark block (by omega) shown
    · rw [if_neg mark] at few
      have shown := ih others (Nat.le_trans (Nat.le_max_right _ _) few)
      by_cases control : isControl c = true
      · obtain ⟨block, rfl⟩ := here control
        exact .feed block shown
      · exact .plain mark (isPlain_of_isControl (by simpa using control)) (by simp [literal]) shown

/-! ## The readers -/

/-- **A line is read up to its closing mark.** -/
theorem lineFrom_shown {l : Layout} (known : l ∈ Layout.all) (line : l.block = false) {run : Nat}
    {text s : List Char} (shown : Shown l run text s) {fuel : Nat} (enough : text.length < fuel)
    (read rest : List Char) :
    l.quotation.lineFrom fuel read (text ++ l.quotation.mark :: rest) =
      some (String.ofList (read.reverse ++ s), rest) := by
  obtain ⟨slash, -, -⟩ := mark_ne l known
  induction shown generalizing fuel read with
  | nil =>
    obtain ⟨fuel, rfl⟩ := Nat.exists_eq_add_of_lt enough
    simp [Quotation.lineFrom]
  | mark block => exact absurd block (by simp [line])
  | feed block => exact absurd block (by simp [line])
  | plain other plain solid _ ih =>
    obtain ⟨fuel, rfl⟩ := Nat.exists_eq_add_of_lt enough
    rw [List.cons_append, Quotation.lineFrom, if_neg other, if_neg (by simpa using solid),
      if_pos plain, ih (by simp only [List.length_cons]; omega)]
    simp
  | escape escapes word' _ ih =>
    obtain ⟨fuel, rfl⟩ := Nat.exists_eq_add_of_lt enough
    rw [List.cons_append, List.append_assoc, Quotation.lineFrom, if_neg slash.symm,
      if_pos (by simp [escapes]), word'.read]
    simp only [Option.bind_eq_bind, Option.bind_some]
    rw [ih (by simp only [List.length_cons, List.length_append]; omega)]
    simp

/-- What a block shows after some marks is at most two of them, to its end, or fewer before another
character. -/
theorem shown_ahead {l : Layout} (known : l ∈ Layout.all) {run : Nat} {text s : List Char}
    (shown : Shown l run text s) (few : run ≤ 2) :
    (∃ j, run + j ≤ 2 ∧ text = List.replicate j l.quotation.mark ∧
      s = List.replicate j l.quotation.mark) ∨
      ∀ rest, run + ((text ++ rest).takeWhile (· = l.quotation.mark)).length ≤ 2 := by
  obtain ⟨slash, feed, -⟩ := mark_ne l known
  induction shown with
  | nil => exact .inl ⟨0, few, rfl, rfl⟩
  | mark _ fewer _ ih =>
    rcases ih fewer with ⟨j, bound, rfl, rfl⟩ | other
    · exact .inl ⟨j + 1, by omega, by rw [List.replicate_succ], by rw [List.replicate_succ]⟩
    · refine .inr fun rest => ?_
      have := other rest
      simp only [List.cons_append, List.takeWhile_cons, decide_true, if_true, List.length_cons]
      omega
  | feed => exact .inr fun rest => by simpa [List.takeWhile_cons, feed.symm] using few
  | plain other => exact .inr fun rest => by simpa [List.takeWhile_cons, other] using few
  | escape => exact .inr fun rest => by simpa [List.takeWhile_cons, slash.symm] using few

/-- Marks in a row are counted up to another character. -/
theorem takeWhile_marks {mark : Char} (n : Nat) {rest : List Char}
    (other : ∀ c ∈ rest.head?, c ≠ mark) :
    (List.replicate n mark ++ rest).takeWhile (· = mark) = List.replicate n mark := by
  induction n with
  | zero =>
    cases rest with
    | nil => rfl
    | cons c rest => simpa [List.takeWhile_cons] using other c rfl
  | succ n ih => simp [List.replicate_succ, ih]

/-- Lines end at line feeds, which carriage returns may precede. -/
theorem newline?_of_ne {c : Char} (feed : c ≠ '\n') (return' : c ≠ '\r') (s : List Char) :
    newline? (c :: s) = none := by
  unfold newline?
  split
  · next h => exact absurd (List.cons.inj h).1 feed
  · next h => exact absurd (List.cons.inj h).1 return'
  · rfl

/-- No line ends at a plain character. -/
theorem newline?_of_isPlain {c : Char} (plain : isPlain c = true) (s : List Char) :
    newline? (c :: s) = none := by
  refine newline?_of_ne ?_ ?_ s <;> rintro rfl <;> exact absurd plain (by decide)

/-- The marks at the end of a block close it, the first ones of more than three being its own. -/
theorem blockFrom_marks (q : Quotation) (fuel : Nat) (read : List Char) {n : Nat} (few : n ≤ 2)
    {rest : List Char} (other : ∀ c ∈ rest.head?, c ≠ q.mark) :
    q.blockFrom (fuel + 1) read (List.replicate (n + 3) q.mark ++ rest) =
      some (String.ofList (read.reverse ++ List.replicate n q.mark), rest) := by
  have more : min 4 ((List.replicate (n + 2) q.mark ++ rest).takeWhile (· = q.mark)).length = n + 2 := by
    rw [takeWhile_marks _ other, List.length_replicate]
    omega
  have after : (List.replicate (n + 2) q.mark ++ rest).drop (n + 2) = rest := by
    rw [List.drop_append_of_le_length (by simp)]
    simp
  rw [List.replicate_succ, List.cons_append, Quotation.blockFrom, if_pos rfl]
  simp only [more, after, Nat.le_add_left, if_true, Nat.add_sub_cancel]

/-- **A block is read up to its closing marks.** -/
theorem blockFrom_shown {l : Layout} (known : l ∈ Layout.all) {run : Nat} {text s : List Char}
    (shown : Shown l run text s) {fuel : Nat} (enough : text.length < fuel) (read : List Char)
    {rest : List Char} (other : ∀ c ∈ rest.head?, c ≠ l.quotation.mark) :
    l.quotation.blockFrom fuel read (text ++ (List.replicate 3 l.quotation.mark ++ rest)) =
      some (String.ofList (read.reverse ++ s), rest) := by
  obtain ⟨slash, feed, return'⟩ := mark_ne l known
  induction shown generalizing fuel read with
  | nil =>
    obtain ⟨fuel, rfl⟩ := Nat.exists_eq_add_of_lt enough
    exact blockFrom_marks l.quotation _ read (Nat.zero_le 2) other
  | @mark run text s _ few shown ih =>
    obtain ⟨fuel, rfl⟩ := Nat.exists_eq_add_of_lt enough
    rcases shown_ahead known shown few with ⟨j, bound, rfl, rfl⟩ | fewer
    · rw [← List.replicate_succ, ← List.append_assoc, List.replicate_append_replicate]
      exact blockFrom_marks l.quotation _ read (by omega) other
    · have ahead := fewer (List.replicate 3 l.quotation.mark ++ rest)
      rw [List.cons_append, Quotation.blockFrom, if_pos rfl, if_neg (by omega),
        ih (by simp only [List.length_cons]; omega)]
      simp
  | feed block _ ih =>
    obtain ⟨fuel, rfl⟩ := Nat.exists_eq_add_of_lt enough
    rw [List.cons_append, Quotation.blockFrom, if_neg feed.symm, if_neg (by simp)]
    simp only [newline?]
    rw [ih (by simp only [List.length_cons]; omega)]
    simp
  | plain other plain solid _ ih =>
    obtain ⟨fuel, rfl⟩ := Nat.exists_eq_add_of_lt enough
    rw [List.cons_append, Quotation.blockFrom, if_neg other, if_neg (by simpa using solid),
      newline?_of_isPlain plain]
    simp only [if_pos plain]
    rw [ih (by simp only [List.length_cons]; omega)]
    simp
  | escape escapes word' _ ih =>
    obtain ⟨fuel, rfl⟩ := Nat.exists_eq_add_of_lt enough
    rw [List.cons_append, List.append_assoc, Quotation.blockFrom, if_neg slash.symm,
      if_pos (by simp [escapes]), word'.solid, word'.read]
    simp only [Option.bind_eq_bind, Option.bind_some]
    rw [ih (by simp only [List.length_cons, List.length_append]; omega)]
    simp

/-! ## Strings -/

/-- What stands between the marks of a layout. -/
def Layout.body (l : Layout) (s : List Char) : List Char :=
  if l.quotation.escapes then escapeAll l.block 0 s else s

/-- The layouts with escapes are those in double quotes. -/
theorem quotation_eq_basic : ∀ l ∈ Layout.all, l.quotation.escapes = true → l.quotation = .basic := by
  decide

/-- The marks of all layouts begin strings of their kinds. -/
theorem quotation?_mark : ∀ l ∈ Layout.all, quotation? l.quotation.mark = some l.quotation := by
  decide

/-- Whether a layout does for a string: it shows all characters or escapes those it does not. -/
structure Suits (l : Layout) (s : List Char) : Prop where
  /-- The layout is one of the four. -/
  known : l ∈ Layout.all
  /-- What does not show is escaped. -/
  shows : l.quotation.escapes = true ∨ l.shows s = true

namespace Suits

variable {l : Layout} {s : List Char}

/-- **What stands between the marks shows the string.** -/
theorem shown_body (suits : Suits l s) : Shown l 0 (l.body s) s := by
  rw [Layout.body]
  by_cases escapes : l.quotation.escapes = true
  · have basic : l = ⟨.basic, l.block⟩ := by
      rw [← quotation_eq_basic l suits.known escapes]
    rw [if_pos escapes]
    have shown := shown_escapeAll l.block 0 s
    rwa [← basic] at shown
  · have shows := suits.shows.resolve_left escapes
    simp only [Layout.shows, Bool.and_eq_true, List.all_eq_true, Bool.or_eq_true, Bool.not_eq_true',
      decide_eq_true_eq] at shows
    rw [if_neg escapes]
    refine shown_self (by simpa using escapes) (fun c hc control => ?_) shows.2
    exact (shows.1.1 c hc).resolve_left (by simp [control])

/-- In one line, a string stands between two marks. -/
theorem write_line (line : l.block = false) (s rest : List Char) :
    l.write s ++ rest = l.quotation.mark :: (l.body s ++ l.quotation.mark :: rest) := by
  simp [Layout.write, Layout.body, line]

/-- What is written in one line is read back after its first mark. -/
theorem read_line (suits : Suits l s) (line : l.block = false) (rest : List Char) :
    l.quotation.line (l.body s ++ l.quotation.mark :: rest) = some (String.ofList s, rest) := by
  rw [Quotation.line, lineFrom_shown suits.known line suits.shown_body
    (by simp only [List.length_append]; omega)]
  rfl

/-- What is written in one line does not begin with three marks. -/
theorem string_line (suits : Suits l s) (line : l.block = false) {rest : List Char}
    (other : ∀ c ∈ rest.head?, c ≠ l.quotation.mark) :
    string l.quotation (l.write s ++ rest) = l.quotation.line (l.body s ++ l.quotation.mark :: rest) := by
  have front : ∀ t, l.body s ++ l.quotation.mark :: rest ≠ l.quotation.mark :: l.quotation.mark :: t := by
    intro t
    have shown := suits.shown_body
    generalize l.body s = text at *
    cases shown with
    | nil =>
      intro h
      obtain rfl := (List.cons.inj h).2
      exact other _ rfl rfl
    | mark block => exact absurd block (by simp [line])
    | feed block => exact absurd block (by simp [line])
    | plain different => exact fun h => different (List.cons.inj h).1
    | escape => exact fun h => (mark_ne l suits.known).1 (List.cons.inj h).1.symm
  rw [write_line line]
  generalize l.body s ++ l.quotation.mark :: rest = t at *
  match t with
  | [] | [_] => rfl
  | b :: c :: t =>
    rw [string, if_neg]
    rintro ⟨-, rfl, rfl⟩
    exact front t rfl

/-- **What is written over several lines is read back.** -/
theorem string_block (suits : Suits l s) (block : l.block = true) {rest : List Char}
    (other : ∀ c ∈ rest.head?, c ≠ l.quotation.mark) :
    string l.quotation (l.write s ++ rest) = some (String.ofList s, rest) := by
  obtain ⟨slash, feed, return'⟩ := mark_ne l suits.known
  have shown := suits.shown_body
  have read : ∀ fuel, (l.body s).length < fuel → l.quotation.blockFrom fuel []
      (l.body s ++ (List.replicate 3 l.quotation.mark ++ rest)) = some (String.ofList s, rest) := by
    intro fuel enough
    rw [blockFrom_shown suits.known shown enough [] other]
    rfl
  have write : l.write s ++ rest = List.replicate 3 l.quotation.mark ++
      ((if s.contains '\n' then ['\n'] else []) ++
        (l.body s ++ (List.replicate 3 l.quotation.mark ++ rest))) := by
    simp [Layout.write, Layout.body, block]
  have marks : ∀ t, string l.quotation (List.replicate 3 l.quotation.mark ++ t) =
      l.quotation.block t := by
    intro t
    simp [List.replicate_succ, string]
  rw [write, marks, Quotation.block]
  by_cases feeds : s.contains '\n' = true
  · rw [if_pos feeds]
    exact read _ (by simp only [List.length_append]; omega)
  · -- Without line feeds in the string, the block begins on the line of its marks.
    have front : newline? (l.body s ++ (List.replicate 3 l.quotation.mark ++ rest)) = none := by
      generalize l.body s = text at *
      cases shown with
      | nil => exact newline?_of_ne feed return' _
      | mark => exact newline?_of_ne feed return' _
      | feed => exact absurd (by simp) feeds
      | plain _ plain => exact newline?_of_isPlain plain _
      | escape => exact newline?_of_ne (by decide) (by decide) _
    rw [if_neg feeds, List.nil_append, front]
    exact read _ (by simp only [List.length_append]; omega)

/-- **A string is read back from any layout that suits it.** -/
theorem string_write (suits : Suits l s) {rest : List Char}
    (other : ∀ c ∈ rest.head?, c ≠ l.quotation.mark) :
    string l.quotation (l.write s ++ rest) = some (String.ofList s, rest) := by
  by_cases block : l.block = true
  · exact suits.string_block block other
  · have line : l.block = false := by simpa using block
    rw [suits.string_line line other, suits.read_line line]

end Suits

/-- A layout that is chosen because it shows a string suits it, and so does one with escapes. -/
theorem suits_find {p : Layout → Bool} {s : List Char} (shows : ∀ l, p l = true → l.shows s = true)
    (block : Bool) : Suits ((Layout.all.find? p).getD ⟨.basic, block⟩) s := by
  cases found : Layout.all.find? p with
  | some l => exact ⟨List.mem_of_find?_eq_some found, .inr (shows l (by simpa using List.find?_some found))⟩
  | none => exact ⟨by cases block <;> decide, .inl rfl⟩

/-- What begins neither with a bracket nor with a brace is no list and no table. -/
theorem value_scalar {c : Char} (list : c ≠ '[') (table : c ≠ '{') (depth : Nat) (s : List Char) :
    value depth (c :: s) = scalar (c :: s) := by
  unfold value
  split
  · next h => exact absurd (List.cons.inj h).1 list
  · next h => exact absurd (List.cons.inj h).1 table
  · rfl

/-- The marks of all layouts begin strings, and no other values. -/
theorem value_mark (depth : Nat) (t : List Char) : ∀ l ∈ Layout.all,
    value depth (l.quotation.mark :: t) =
      (string l.quotation (l.quotation.mark :: t)).map fun r => (.str r.1, r.2) := by
  have brackets : ∀ l ∈ Layout.all, l.quotation.mark ≠ '[' ∧ l.quotation.mark ≠ '{' ∧
      l.quotation.mark ≠ 't' ∧ l.quotation.mark ≠ 'f' := by
    decide
  intro l known
  obtain ⟨list, table, true', false'⟩ := brackets l known
  rw [value_scalar list table]
  simp [scalar, true', false', quotation?_mark l known]

/-- **A string reads back** at the end of a line. -/
theorem value_printString (s : String) (depth : Nat) (rest : List Char) :
    value depth (printString s ++ '\n' :: rest) = some (.str s, '\n' :: rest) := by
  have suits := suits_find (s := s.toList) (fun _ shows => shows) (s.toList.contains '\n')
  rw [printString]
  generalize (Layout.all.find? (·.shows s.toList)).getD ⟨.basic, s.toList.contains '\n'⟩ = l at *
  have other : ∀ c ∈ ('\n' :: rest).head?, c ≠ l.quotation.mark := by
    rintro c ⟨⟩
    exact (mark_ne l suits.known).2.1.symm
  have read := suits.string_write other
  obtain ⟨t, front⟩ : ∃ t, l.write s.toList ++ '\n' :: rest = l.quotation.mark :: t := by
    rw [Layout.write]
    cases l.block <;> exact ⟨_, rfl⟩
  rw [front] at read ⊢
  rw [value_mark depth t l suits.known, read, String.ofList_toList]
  rfl

/-! ## Names -/

/-- A name is written as it is, or as a string on one line. -/
theorem printName_cases (s : String) :
    (s.toList ≠ [] ∧ (∀ c ∈ s.toList, isBare c = true) ∧ printName s = s.toList) ∨
      ∃ l, Suits l s.toList ∧ l.block = false ∧ printName s = l.write s.toList := by
  rw [printName]
  by_cases bare : (!s.toList.isEmpty && s.toList.all isBare) = true
  · rw [if_pos bare]
    simp only [Bool.and_eq_true, List.all_eq_true] at bare
    exact .inl ⟨by simpa using bare.1, bare.2, rfl⟩
  · rw [if_neg bare]
    refine .inr ⟨_, suits_find (fun l chosen => (Bool.and_eq_true_iff.mp chosen).2) false, ?_, rfl⟩
    cases found : Layout.all.find? fun l => !l.block && l.shows s.toList with
    | some l =>
      have chosen : (!l.block && l.shows s.toList) = true := by simpa using List.find?_some found
      simpa using (Bool.and_eq_true_iff.mp chosen).1
    | none => rfl

/-- The first character of a name is one that may be bare, or a mark. -/
theorem exists_printName (s : String) :
    ∃ c t, printName s = c :: t ∧ (isBare c = true ∨ c = '"' ∨ c = '\'') := by
  have marks : ∀ l ∈ Layout.all, l.quotation.mark = '"' ∨ l.quotation.mark = '\'' := by decide
  rcases printName_cases s with ⟨some', all, plain⟩ | ⟨l, suits, line, quoted⟩
  · obtain ⟨c, t, front⟩ := List.exists_cons_of_ne_nil some'
    exact ⟨c, t, plain.trans front, .inl (all c (by simp [front]))⟩
  · have front := Suits.write_line line s.toList []
    rw [List.append_nil] at front
    exact ⟨_, _, quoted.trans front, .inr (marks l suits.known)⟩

/-- **A name reads back** in front of what cannot continue it. -/
theorem name_printName (s : String) {rest : List Char} (ends : ∀ c ∈ rest.head?, isBare c = false) :
    name (printName s ++ rest) = some (s, rest) := by
  rcases printName_cases s with ⟨some', all, plain⟩ | ⟨l, suits, line, quoted⟩
  · obtain ⟨c, t, front⟩ := List.exists_cons_of_ne_nil some'
    have text : String.ofList (c :: t) = s := by rw [← front, String.ofList_toList]
    rw [plain]
    rw [front] at all ⊢
    obtain ⟨first, others⟩ := List.forall_mem_cons.mp all
    have unquoted : quotation? c = none := by
      have basic : c ≠ '"' := by rintro rfl; exact absurd first (by decide)
      have literal : c ≠ '\'' := by rintro rfl; exact absurd first (by decide)
      simp [quotation?, Quotation.basic, Quotation.literal, basic, literal]
    have after : rest.takeWhile isBare = [] ∧ rest.dropWhile isBare = rest := by
      cases rest with
      | nil => exact ⟨rfl, rfl⟩
      | cons d rest => simp [ends d rfl]
    rw [List.cons_append, name, unquoted]
    simp only [if_pos first]
    rw [List.takeWhile_append_of_pos others, List.dropWhile_append_of_pos others, after.1, after.2,
      List.append_nil, text]
  · rw [quoted, Suits.write_line line, name, quotation?_mark l suits.known]
    simp only
    rw [suits.read_line line, String.ofList_toList]

/-- A name does not begin with a blank. -/
theorem skipBlanks_printName (s : String) (rest : List Char) :
    skipBlanks (printName s ++ rest) = printName s ++ rest := by
  obtain ⟨c, t, front, kind⟩ := exists_printName s
  have visible : isBlank c = false := by
    by_contra blank
    rw [Bool.not_eq_false, isBlank, Bool.or_eq_true, decide_eq_true_eq, decide_eq_true_eq] at blank
    rcases blank with rfl | rfl <;> exact absurd kind (by decide)
  rw [front, List.cons_append, skipBlanks, List.dropWhile_cons_of_neg (by simp [visible])]

/-- **A path reads back** in front of what cannot continue it. -/
theorem pathFrom_print {path : List String} (nonempty : path ≠ []) {fuel : Nat}
    (enough : path.length ≤ fuel) {rest : List Char} (ends : ∀ c ∈ rest.head?, isBare c = false)
    (point : ∀ t, skipBlanks rest ≠ '.' :: t) :
    pathFrom fuel (List.intercalate ['.'] (path.map printName) ++ rest) =
      some (path, skipBlanks rest) := by
  induction path generalizing fuel with
  | nil => exact absurd rfl nonempty
  | cons first path ih =>
    obtain ⟨fuel, rfl⟩ := Nat.exists_eq_add_of_le' (Nat.le_trans (Nat.le_add_left 1 _) enough)
    match path with
    | [] =>
      have front : List.intercalate ['.'] ([first].map printName) ++ rest = printName first ++ rest := by
        simp [List.intercalate]
      rw [front, pathFrom, skipBlanks_printName, name_printName first ends]
      simp only [Option.bind_eq_bind, Option.bind_some]
    | second :: path =>
      have front : List.intercalate ['.'] ((first :: second :: path).map printName) ++ rest =
          printName first ++ '.' :: (List.intercalate ['.'] ((second :: path).map printName) ++ rest) := by
        simp [List.intercalate]
      have dot : ∀ t, skipBlanks ('.' :: t) = '.' :: t := fun t => rfl
      have others := ih (by simp) (show (second :: path).length ≤ fuel by simpa using enough)
      rw [front, pathFrom, skipBlanks_printName, name_printName first (by rintro c ⟨⟩; decide)]
      simp only [Option.bind_eq_bind, Option.bind_some, dot]
      rw [others, Option.bind_some]

/-- A path begins as its first name does. -/
theorem exists_intercalate (first : String) (path : List String) :
    ∃ c t, List.intercalate ['.'] ((first :: path).map printName) = c :: t ∧
      (isBare c = true ∨ c = '"' ∨ c = '\'') := by
  obtain ⟨c, t, front, kind⟩ := exists_printName first
  cases path with
  | nil => exact ⟨c, t, by simp [List.intercalate, front], kind⟩
  | cons second path => exact ⟨c, _, by simp [List.intercalate, front]; rfl, kind⟩

/-- A path has no more names than characters. -/
theorem length_le_length_intercalate (path : List String) :
    path.length ≤ (List.intercalate ['.'] (path.map printName)).length := by
  induction path with
  | nil => exact Nat.le_refl _
  | cons first path ih =>
    obtain ⟨c, t, front, -⟩ := exists_printName first
    match path with
    | [] => simp [List.intercalate, front]
    | second :: path =>
      simp only [List.intercalate, List.map_cons, List.intersperse_cons_cons, List.flatten_cons,
        List.length_append, List.length_cons, front] at ih ⊢
      omega

/-- **A key reads back**: the names that lead to a table, and the name in it. -/
theorem key_print {path : List String} (nonempty : path ≠ []) (shallow : path.length < depthLimit)
    {rest : List Char} (ends : ∀ c ∈ rest.head?, isBare c = false)
    (point : ∀ t, skipBlanks rest ≠ '.' :: t) :
    key (List.intercalate ['.'] (path.map printName) ++ rest) =
      some ((path.dropLast, path.getLast nonempty), skipBlanks rest) := by
  have enough : path.length ≤ (List.intercalate ['.'] (path.map printName) ++ rest).length := by
    have := length_le_length_intercalate path
    rw [List.length_append]
    omega
  rw [key, pathFrom_print nonempty enough ends point]
  simp only [Option.bind_eq_bind, Option.bind_some, if_neg (Nat.not_le.mpr shallow),
    List.getLast?_eq_some_getLast nonempty]

/-- A name alone is a key of the table itself. -/
theorem key_printName (name : String) {rest : List Char} (ends : ∀ c ∈ rest.head?, isBare c = false)
    (point : ∀ t, skipBlanks rest ≠ '.' :: t) :
    key (printName name ++ rest) = some (([], name), skipBlanks rest) := by
  have read := key_print (List.cons_ne_nil name []) (show 1 < 80 by omega) ends point
  simpa [List.intercalate] using read

end Colloquy.Toml
