import Colloquy.Proofs.Toml.Numbers
import Colloquy.Toml.Document

/-! # Lines of a TOML document read back

`Toml.Reads` ties a text that ends where a line ends to what its lines say, in front of any other
lines.  Texts are put together and so is what they say (`Toml.Reads.append`), and the single lines of
a printed document say what they should: an assignment its name and value, a header its path. -/

namespace Colloquy.Toml

/-! ## Values on a line -/

/-- No value begins with a blank. -/
theorem value_blank {c : Char} (blank : isBlank c = true) (depth : Nat) (s : List Char) :
    value depth (c :: s) = none := by
  rw [isBlank, Bool.or_eq_true, decide_eq_true_eq, decide_eq_true_eq] at blank
  have digit : isDigitIn 10 c = false := by rcases blank with rfl | rfl <;> decide
  have time : beginsTime (c :: s) = false := by
    unfold beginsTime
    split
    · next h => rw [← (List.cons.inj h).1, digit, Bool.false_and]
    · rfl
  have date : beginsDate (c :: s) = false := by simp [beginsDate, digit]
  rcases blank with rfl | rfl
  · simp [value_scalar, scalar, quotation?, Quotation.basic, Quotation.literal, dateOrNumber, time, date,
      number, signed, decimal, digits, digit]
  · simp [value_scalar, scalar, quotation?, Quotation.basic, Quotation.literal, dateOrNumber, time, date,
      number, signed, decimal, digits, digit]

/-- Whether a value is written on a line and read back from there. -/
structure Leaf (v : Json) : Prop where
  /-- The value is no table, which has lines of its own. -/
  single : ∀ fields, v ≠ .obj fields
  /-- It is not `null`, for which nothing is written. -/
  something : v ≠ .null
  /-- It is read back at the end of a line. -/
  read : ∀ rest, value depthLimit (printValue v ++ '\n' :: rest) = some (v, '\n' :: rest)

/-- Strings stand on a line. -/
theorem leaf_str (s : String) : Leaf (.str s) :=
  ⟨nofun, nofun, fun rest => by rw [printValue, value_printString]⟩

/-- Integers of 64 bits with a sign stand on a line. -/
theorem leaf_int {i : JsonInt} (fits : i.val < 9223372036854775808) : Leaf (.num (.int i)) :=
  ⟨nofun, nofun, fun rest => by rw [printValue, value_printInt fits]⟩

/-- Finite doubles stand on a line. -/
theorem leaf_float {x : Double} (finite : x.isFinite = true) : Leaf (.num (.float x)) :=
  ⟨nofun, nofun, fun rest => by rw [printValue, value_printReal finite]⟩

/-- What is written for a value does not begin with a blank. -/
theorem Leaf.skipBlanks_eq {v : Json} (leaf : Leaf v) (rest : List Char) :
    skipBlanks (printValue v ++ '\n' :: rest) = printValue v ++ '\n' :: rest := by
  have read := leaf.read rest
  generalize printValue v ++ '\n' :: rest = s at *
  cases s with
  | nil => rfl
  | cons c s =>
    have visible : isBlank c = false := by
      by_contra blank
      rw [value_blank (by simpa using blank)] at read
      exact absurd read nofun
    rw [skipBlanks, List.dropWhile_cons_of_neg (by simp [visible])]

/-! ## Texts and what they say -/

/-- Whether a text is whole lines that say so much, whatever other lines follow it. -/
def Reads (s : List Char) (ls : List Line) : Prop :=
  ∀ rest more, (∀ fuel, rest.length < fuel → linesFrom fuel rest = some more) →
    ∀ fuel, (s ++ rest).length < fuel → linesFrom fuel (s ++ rest) = some (ls ++ more)

/-- Nothing says nothing. -/
theorem reads_nil : Reads [] [] := fun _ _ read => read

/-- What follows is said afterwards. -/
theorem Reads.append {s t : List Char} {ls ms : List Line} (first : Reads s ls) (second : Reads t ms) :
    Reads (s ++ t) (ls ++ ms) := by
  intro rest more read
  rw [List.append_assoc, List.append_assoc]
  exact first _ _ (second rest more read)

/-- The whole of a text is read. -/
theorem Reads.linesFrom_eq {s : List Char} {ls : List Line} (reads : Reads s ls) {fuel : Nat}
    (enough : s.length < fuel) : linesFrom fuel s = some ls := by
  have nothing : ∀ fuel, ([] : List Char).length < fuel → linesFrom fuel [] = some [] := by
    intro fuel positive
    obtain ⟨fuel, rfl⟩ := Nat.exists_eq_add_of_lt positive
    rfl
  have read := reads [] [] nothing fuel (by simpa using enough)
  rwa [List.append_nil, List.append_nil] at read

/-- An empty line says nothing. -/
theorem reads_feed : Reads ['\n'] [] := by
  intro rest more read fuel enough
  obtain ⟨fuel, rfl⟩ := Nat.exists_eq_add_of_lt enough
  have after := read (('\n' :: rest).length + fuel) (by simp only [List.length_cons]; omega)
  simpa [linesFrom, skipBlanks, isBlank, endLine, skipComment, newline?] using after

/-- A line that holds nothing more ends at a line feed. -/
theorem endLine_feed (rest : List Char) : endLine ('\n' :: rest) = some rest := rfl

/-- The line of an assignment. -/
def printAssignment (name : String) (v : Json) : List Char :=
  printName name ++ ' ' :: '=' :: ' ' :: (printValue v ++ ['\n'])

/-- **An assignment says its name and its value.** -/
theorem reads_assignment (name : String) {v : Json} (leaf : Leaf v) :
    Reads (printAssignment name v) [.assignment [] name v] := by
  intro rest more read fuel enough
  obtain ⟨fuel, rfl⟩ := Nat.exists_eq_add_of_lt enough
  have text : printAssignment name v ++ rest =
      printName name ++ (' ' :: '=' :: ' ' :: (printValue v ++ '\n' :: rest)) := by
    simp [printAssignment]
  have longer : rest.length < (printAssignment name v ++ rest).length := by
    simp only [printAssignment, List.length_append, List.length_cons]
    omega
  have after := read ((printAssignment name v ++ rest).length + fuel) (by omega)
  -- The key and the value are read one after the other.
  have key' : key (printName name ++ (' ' :: '=' :: ' ' :: (printValue v ++ '\n' :: rest))) =
      some (([], name), '=' :: ' ' :: (printValue v ++ '\n' :: rest)) :=
    key_printName name (by rintro c ⟨⟩; decide) (fun t h => by simp [skipBlanks, isBlank] at h)
  have pair' : pair (value depthLimit)
      (printName name ++ (' ' :: '=' :: ' ' :: (printValue v ++ '\n' :: rest))) =
      some ((([], name), v), '\n' :: rest) := by
    have blank : skipBlanks (' ' :: (printValue v ++ '\n' :: rest)) = printValue v ++ '\n' :: rest :=
      leaf.skipBlanks_eq rest
    simp only [pair, key', expect, Option.bind_eq_bind, Option.bind_some, if_true, blank, leaf.read]
    rfl
  rw [text] at after ⊢
  rw [linesFrom, skipBlanks_printName]
  obtain ⟨c, t, front, kind⟩ := exists_printName name
  have other : ∀ d, isBare d = false → d ≠ '"' → d ≠ '\'' → c ≠ d := by
    rintro d bare basic literal rfl
    simp [bare, basic, literal] at kind
  rw [front, List.cons_append] at pair' after ⊢
  have bracket := other '[' (by decide) (by decide) (by decide)
  have comment := other '#' (by decide) (by decide) (by decide)
  have feed := other '\n' (by decide) (by decide) (by decide)
  have return' := other '\r' (by decide) (by decide) (by decide)
  split
  · next h => exact absurd h (List.cons_ne_nil _ _)
  · next h => exact absurd (List.cons.inj h).1 bracket
  · next h =>
    obtain ⟨rfl, rfl⟩ := List.cons.inj h
    rw [if_neg (by simp [comment, feed, return']), pair']
    simp only [Option.bind_eq_bind, Option.bind_some, endLine_feed, after, List.cons_append,
      List.nil_append]

/-- **A header says its path.** -/
theorem reads_header {path : List String} (nonempty : path ≠ []) (shallow : path.length < depthLimit) :
    Reads (printHeader path) [.header false path.dropLast (path.getLast nonempty)] := by
  intro rest more read fuel enough
  obtain ⟨fuel, rfl⟩ := Nat.exists_eq_add_of_lt enough
  have text : printHeader path ++ rest =
      '[' :: (List.intercalate ['.'] (path.map printName) ++ (']' :: '\n' :: rest)) := by
    simp [printHeader]
  have longer : rest.length < (printHeader path ++ rest).length := by
    simp only [text, List.length_append, List.length_cons]
    omega
  have after := read ((printHeader path ++ rest).length + fuel) (by omega)
  have key' : key (List.intercalate ['.'] (path.map printName) ++ (']' :: '\n' :: rest)) =
      some ((path.dropLast, path.getLast nonempty), ']' :: '\n' :: rest) :=
    key_print nonempty shallow (by rintro c ⟨⟩; decide) (fun t h => by simp [skipBlanks, isBlank] at h)
  have header' : header (List.intercalate ['.'] (path.map printName) ++ (']' :: '\n' :: rest)) =
      some (.header false path.dropLast (path.getLast nonempty), '\n' :: rest) := by
    obtain ⟨first, path, rfl⟩ := List.exists_cons_of_ne_nil nonempty
    obtain ⟨c, t, front, kind⟩ := exists_intercalate first path
    have bracket : c ≠ '[' := by
      rintro rfl
      exact absurd kind (by decide)
    rw [front, List.cons_append] at key' ⊢
    unfold header
    split
    · next h => exact absurd (List.cons.inj h).1 bracket
    · rw [key']
      rfl
  have visible : ∀ s, skipBlanks ('[' :: s) = '[' :: s := fun s => rfl
  rw [text] at after ⊢
  rw [linesFrom, visible]
  simp only [header', endLine_feed, after, Option.bind_eq_bind, Option.bind_some, List.cons_append,
    List.nil_append]

end Colloquy.Toml
