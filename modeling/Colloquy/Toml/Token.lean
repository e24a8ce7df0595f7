import Colloquy.Json.Token

/-! # Words of a TOML document

The parts that values, keys and lines are made of: blanks, ends of lines, comments, and the four
kinds of strings.  A reader takes its part from the front of a text and returns what follows, or
fails; a document that does not read is refused as a whole, so a failure carries no reason. -/

namespace Colloquy.Toml

/-- A reader of a part at the front of a text. -/
abbrev Reader (α : Type) := List Char → Option (α × List Char)

/-- A blank within a line. -/
def isBlank (c : Char) : Bool := c = ' ' || c = '\t'

/-- Pass over blanks. -/
def skipBlanks (s : List Char) : List Char := s.dropWhile isBlank

/-- A character that may stand in a comment or, as itself, in a string: anything but the controls,
the tab being none of them. -/
def isPlain (c : Char) : Bool := c = '\t' || (0x20 ≤ c.toNat && c.toNat != 0x7F)

/-- Pass over an end of line. -/
def newline? : List Char → Option (List Char)
  | '\n' :: rest => some rest
  | '\r' :: '\n' :: rest => some rest
  | _ => none

/-- Pass over a comment, if there is one. -/
def skipComment : List Char → List Char
  | '#' :: rest => rest.dropWhile isPlain
  | s => s

/-- Pass over the rest of a line that holds nothing more; the text may end instead. -/
def endLine (s : List Char) : Option (List Char) :=
  match skipComment (skipBlanks s) with
  | [] => some []
  | c :: rest => newline? (c :: rest)

/-! ### Strings -/

/-- The number that hexadecimal digits stand for. -/
def hexNumber? : List Char → Nat → Option Nat
  | [], n => some n
  | c :: rest, n => (Json.hexValue? c).bind fun d => hexNumber? rest (n * 16 + d)

/-- A character given by the digits of its code point. -/
def codePoint (count : Nat) : Reader Char := fun s => do
  let n ← hexNumber? (s.take count) 0
  if count ≤ s.length ∧ n.isValidChar then some (Char.ofNat n, s.drop count) else none

/-- An escape, after its backslash. -/
def escape : Reader Char
  | 'u' :: rest => codePoint 4 rest
  | 'U' :: rest => codePoint 8 rest
  | '/' :: _ => none
  | c :: rest => (Json.shortEscape? c).map fun d => (d, rest)
  | [] => none

/-- The marks of the kinds of strings, and whether they have escapes. -/
structure Quotation where
  /-- The mark at both ends. -/
  mark : Char
  /-- Whether a backslash begins an escape. -/
  escapes : Bool
deriving DecidableEq, Repr

namespace Quotation

/-- Strings in double quotes have escapes. -/
def basic : Quotation := ⟨'"', true⟩

/-- Strings in single quotes stand for themselves. -/
def literal : Quotation := ⟨'\'', false⟩

/-- The rest of a string on one line, after its opening mark; each step takes at least one of `fuel`
characters. -/
def lineFrom (q : Quotation) : Nat → List Char → Reader String
  | 0, _, _ => none
  | _ + 1, _, [] => none
  | fuel + 1, read, c :: s =>
    if c = q.mark then some (String.ofList read.reverse, s)
    else if q.escapes && c = '\\' then do
      let (d, rest) ← escape s
      lineFrom q fuel (d :: read) rest
    else if isPlain c then lineFrom q fuel (c :: read) s
    else none

/-- Pass over blanks and line ends. -/
def skipLines : List Char → List Char
  | ' ' :: rest => skipLines rest
  | '\t' :: rest => skipLines rest
  | '\n' :: rest => skipLines rest
  | '\r' :: '\n' :: rest => skipLines rest
  | s => s

/-- What follows a backslash at the end of a line, blanks and further line ends being dropped. -/
def foldedLine? (s : List Char) : Option (List Char) :=
  (newline? (skipBlanks s)).map skipLines

/-- The rest of a string over several lines, after its opening marks.  Line ends count as single
line feeds, and of three to five closing marks the first ones belong to the string. -/
def blockFrom (q : Quotation) : Nat → List Char → Reader String
  | 0, _, _ => none
  | _ + 1, _, [] => none
  | fuel + 1, read, c :: s =>
    if c = q.mark then
      let more := min 4 (s.takeWhile (· = q.mark)).length
      if 2 ≤ more then
        some (String.ofList (read.reverse ++ List.replicate (more - 2) q.mark), s.drop more)
      else blockFrom q fuel (c :: read) s
    else if q.escapes && c = '\\' then
      match foldedLine? s with
      | some rest => blockFrom q fuel read rest
      | none => do
        let (d, rest) ← escape s
        blockFrom q fuel (d :: read) rest
    else
      match newline? (c :: s) with
      | some rest => blockFrom q fuel ('\n' :: read) rest
      | none => if isPlain c then blockFrom q fuel (c :: read) s else none

/-- A string on one line, after its opening mark. -/
def line (q : Quotation) : Reader String := fun s => q.lineFrom (s.length + 1) [] s

/-- A string over several lines, after its opening marks; a line end right after them is dropped. -/
def block (q : Quotation) : Reader String := fun s =>
  q.blockFrom (s.length + 1) [] ((newline? s).getD s)

end Quotation

/-- The kind of string that a mark begins. -/
def quotation? (c : Char) : Option Quotation :=
  if c = Quotation.basic.mark then some .basic
  else if c = Quotation.literal.mark then some .literal
  else none

/-! ### Keys -/

/-- A character of a key without quotes. -/
def isBare (c : Char) : Bool := c.isAlphanum || c = '_' || c = '-'

/-- A single name. -/
def name : Reader String
  | [] => none
  | c :: s =>
    match quotation? c with
    | some q => q.line s
    | none =>
      if isBare c then some (String.ofList (c :: s.takeWhile isBare), s.dropWhile isBare) else none

/-- The names of a key, separated by points; each takes at least one of `fuel` characters. -/
def pathFrom : Nat → Reader (List String)
  | 0, _ => none
  | fuel + 1, s => do
    let (first, s) ← name (skipBlanks s)
    match skipBlanks s with
    | '.' :: rest => do
      let (others, rest) ← pathFrom fuel rest
      some (first :: others, rest)
    | s => some ([first], s)

/-- The deepest nesting that is read, plus one. -/
def depthLimit : Nat := 80

/-- A key: the names that lead to a table, and the name in it. -/
def key : Reader (List String × String) := fun s => do
  let (path, rest) ← pathFrom s.length s
  if depthLimit ≤ path.length then none
  else
    let last ← path.getLast?
    some ((path.dropLast, last), rest)

end Colloquy.Toml
