import Colloquy.Json.Print
import Colloquy.Toml.Token

/-! # TOML text of values

An object is printed as a document: its values come first, then its objects, each as a table with a
header.  Strings are written in the plainest of the four ways that shows all of their characters. -/

namespace Colloquy.Toml

/-! ### Strings -/

/-- The length of the longest run of a character, `run` of which have just passed. -/
def longestRun (c : Char) : Nat → List Char → Nat
  | run, [] => run
  | run, d :: rest => if d = c then longestRun c (run + 1) rest else max run (longestRun c 0 rest)

/-- Whether a character has to be escaped wherever it stands. -/
def isControl (c : Char) : Bool := (c.toNat < 0x20 && c != '\t') || c.toNat == 0x7F

/-- An upper case hexadecimal digit. -/
def upperDigit (n : Nat) : Char :=
  if n < 10 then Char.ofNat (48 + n) else Char.ofNat (55 + n)

/-- One character in double quotes, other than the quote; line feeds show in a block. -/
def escapeChar (block : Bool) (c : Char) : List Char :=
  if c = '\x08' then ['\\', 'b']
  else if c = '\t' then ['\\', 't']
  else if c = '\n' then (if block then ['\n'] else ['\\', 'n'])
  else if c = '\x0C' then ['\\', 'f']
  else if c = '\r' then ['\\', 'r']
  else if c = '\\' then ['\\', '\\']
  else if isControl c then
    ['\\', 'u', '0', '0', upperDigit (c.toNat / 16), upperDigit (c.toNat % 16)]
  else [c]

/-- Characters in double quotes.  A block may show two quotes in a row, a line none. -/
def escapeAll (block : Bool) : Nat → List Char → List Char
  | _, [] => []
  | run, c :: rest =>
    if c = '"' then
      if block && run < 2 then '"' :: escapeAll block (run + 1) rest
      else '\\' :: '"' :: escapeAll block 0 rest
    else escapeChar block c ++ escapeAll block 0 rest

/-- How a string is written. -/
structure Layout where
  /-- The marks. -/
  quotation : Quotation
  /-- Whether it may take several lines, between triple marks. -/
  block : Bool
deriving DecidableEq, Repr

namespace Layout

/-- Whether the characters show as they are. -/
def shows (l : Layout) (s : List Char) : Bool :=
  s.all (fun c => !isControl c || (l.block && c = '\n')) &&
    !(l.quotation.escapes && s.contains '\\') &&
    longestRun l.quotation.mark 0 s ≤ (if l.block then 2 else 0)

/-- The layouts, from the plainest on. -/
def all : List Layout :=
  [⟨.basic, false⟩, ⟨.literal, false⟩, ⟨.basic, true⟩, ⟨.literal, true⟩]

/-- Write characters in a layout.  A string of several lines begins on a line of its own. -/
def write (l : Layout) (s : List Char) : List Char :=
  let marks := List.replicate (if l.block then 3 else 1) l.quotation.mark
  let body := if l.quotation.escapes then escapeAll l.block 0 s else s
  marks ++ (if l.block && s.contains '\n' then ['\n'] else []) ++ body ++ marks

end Layout

/-- A string in the first layout that shows it, or with escapes. -/
def printString (s : String) : List Char :=
  let s := s.toList
  ((Layout.all.find? (·.shows s)).getD ⟨.basic, s.contains '\n'⟩).write s

/-- A name, without quotes if it can. -/
def printName (s : String) : List Char :=
  let s := s.toList
  if !s.isEmpty && s.all isBare then s
  else ((Layout.all.find? fun l => !l.block && l.shows s).getD ⟨.basic, false⟩).write s

/-! ### Values -/

/-- Doubles keep a point and never have an exponent. -/
def realStyle : DecimalStyle := ⟨-400, 400, false, true⟩

/-- A number that is not whole. -/
def printReal (x : Double) : List Char :=
  match x.value with
  | .nan => ['n', 'a', 'n']
  | _ => (x.render realStyle).toList

mutual

/-- A value within a line; there is none for `null`. -/
def printValue : Json → List Char
  | .null => []
  | .bool b => (toString b).toList
  | .num (.int i) => Json.printInt i.val
  | .num (.float x) => printReal x
  | .str s => printString s
  | .arr items => '[' :: (printItems items ++ [']'])
  | .obj fields => '{' :: ' ' :: (printPairs fields ++ [' ', '}'])

/-- Items separated by commas. -/
def printItems : List Json → List Char
  | [] => []
  | [v] => printValue v
  | v :: w :: rest => printValue v ++ ',' :: ' ' :: printItems (w :: rest)

/-- Members of an inline table, separated by commas. -/
def printPairs : List (String × Json) → List Char
  | [] => []
  | [(name, v)] => printName name ++ ' ' :: '=' :: ' ' :: printValue v
  | (name, v) :: w :: rest =>
    printName name ++ ' ' :: '=' :: ' ' :: (printValue v ++ ',' :: ' ' :: printPairs (w :: rest))

end

/-! ### Documents -/

/-- The lines of a table's own values. -/
def printOwn : List (String × Json) → List Char
  | [] => []
  | (_, .null) :: rest => printOwn rest
  | (_, .obj _) :: rest => printOwn rest
  | (name, v) :: rest =>
    printName name ++ ' ' :: '=' :: ' ' :: (printValue v ++ '\n' :: printOwn rest)

/-- The line of a header. -/
def printHeader (path : List String) : List Char :=
  '[' :: (List.intercalate ['.'] (path.map printName) ++ [']', '\n'])

/-- The part of a document that is about a table itself, if there has to be one: the outermost table
has no header, and a table that holds only tables needs none. -/
def printSection (path : List String) (fields : List (String × Json)) : List (List Char) :=
  let own := printOwn fields
  if path.isEmpty then (if own.isEmpty then [] else [own])
  else if own.isEmpty && !fields.isEmpty then []
  else [printHeader path ++ own]

mutual

/-- The parts of a document that are about a table and the tables within. -/
def sections (path : List String) : Json → List (List Char)
  | .obj fields => printSection path fields ++ sectionsWithin path fields
  | _ => []

/-- The parts of a document that are about the tables among some members. -/
def sectionsWithin (path : List String) : List (String × Json) → List (List Char)
  | [] => []
  | (name, v) :: rest => sections (path ++ [name]) v ++ sectionsWithin path rest

end

/-- The document that says what an object holds. -/
def print (v : Json) : String :=
  String.ofList (List.intercalate ['\n'] (sections [] v))

end Colloquy.Toml
