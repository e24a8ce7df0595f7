import Colloquy.Toml.Number
import Colloquy.Toml.Table

/-! # Values of a TOML document

Strings, numbers, dates, truth values, arrays and inline tables, as JSON values. -/

namespace Colloquy.Toml

/-- A string. -/
def string (q : Quotation) : Reader String
  | a :: b :: c :: rest =>
    if a = q.mark ∧ b = q.mark ∧ c = q.mark then q.block rest else q.line (b :: c :: rest)
  | _ :: rest => q.line rest
  | [] => none

/-- A value that holds no other values. -/
def scalar : Reader Json
  | 't' :: 'r' :: 'u' :: 'e' :: rest => some (.bool true, rest)
  | 'f' :: 'a' :: 'l' :: 's' :: 'e' :: rest => some (.bool false, rest)
  | [] => none
  | c :: rest =>
    match quotation? c with
    | some q => (string q (c :: rest)).map fun r => (.str r.1, r.2)
    | none => dateOrNumber (c :: rest)

/-- Pass over blanks, ends of lines and comments between the items of an array; each step takes at
least one of `fuel` characters. -/
def skipFillerFrom : Nat → List Char → List Char
  | 0, s => s
  | fuel + 1, s =>
    match skipBlanks s with
    | '#' :: rest =>
      match newline? (skipComment ('#' :: rest)) with
      | some rest => skipFillerFrom fuel rest
      | none => '#' :: rest
    | s =>
      match newline? s with
      | some rest => skipFillerFrom fuel rest
      | none => s

/-- Pass over blanks, ends of lines and comments between the items of an array. -/
def skipFiller (s : List Char) : List Char := skipFillerFrom (s.length + 1) s

/-- The items of an array, after its opening bracket or a comma; each takes at least one of `fuel`
characters. -/
def itemsFrom (value : Reader Json) : Nat → Reader (List Json)
  | 0, _ => none
  | fuel + 1, s =>
    match skipFiller s with
    | ']' :: rest => some ([], rest)
    | s => do
      let (v, s) ← value s
      match skipFiller s with
      | ']' :: rest => some ([v], rest)
      | ',' :: rest => do
        let (vs, rest) ← itemsFrom value fuel rest
        some (v :: vs, rest)
      | _ => none

/-- A key and its value, which stand in one line. -/
def pair (value : Reader Json) : Reader ((List String × String) × Json) := fun s => do
  let (k, s) ← key s
  let (v, s) ← value (skipBlanks (← expect '=' s))
  some ((k, v), skipBlanks s)

/-- The members of an inline table, after its opening brace or a comma, added to those before; each
takes at least one of `fuel` characters. -/
def membersFrom (value : Reader Json) : Nat → Members → Reader Members
  | 0, _, _ => none
  | fuel + 1, t, s => do
    let ((k, v), s) ← pair value s
    let t ← t.assign v k.1 k.2
    match s with
    | '}' :: rest => some (t, rest)
    | ',' :: rest => membersFrom value fuel t rest
    | _ => none

/-- A value; `depth` bounds the nesting. -/
def value : Nat → Reader Json
  | depth, '[' :: rest =>
    match depth with
    | 0 | 1 => none
    | depth + 1 => (itemsFrom (value depth) (rest.length + 1) rest).map fun r => (.arr r.1, r.2)
  | depth, '{' :: rest =>
    match depth with
    | 0 | 1 => none
    | depth + 1 =>
      match skipBlanks rest with
      | '}' :: rest => some (.obj [], rest)
      | s =>
        (membersFrom (value depth) (s.length + 1) [] s).map fun r => (.obj (membersToJson r.1), r.2)
  | _, s => scalar s

end Colloquy.Toml
