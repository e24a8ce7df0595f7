import Colloquy.Toml.Value

/-! # TOML documents

A document is a list of lines that say something.  Headers divide the lines into sections, each of
which fills one table. -/

namespace Colloquy.Toml

/-- What a line says. -/
inductive Line where
  /-- The lines that follow are about this table, which is one of a list or stands alone. -/
  | header (listed : Bool) (path : List String) (name : String)
  /-- A name in the current table has this value. -/
  | assignment (path : List String) (name : String) (v : Json)

/-- A header, after its opening bracket. -/
def header : Reader Line := fun s =>
  match s with
  | '[' :: rest => do
    let (k, s) ← key rest
    some (.header true k.1 k.2, ← expect ']' (← expect ']' s))
  | s => do
    let (k, s) ← key s
    some (.header false k.1 k.2, ← expect ']' s)

/-- All lines of a text; each takes at least one of `fuel` characters. -/
def linesFrom : Nat → List Char → Option (List Line)
  | 0, _ => none
  | fuel + 1, s =>
    let next (line : Line) (s : List Char) : Option (List Line) := do
      some (line :: (← linesFrom fuel (← endLine s)))
    match skipBlanks s with
    | [] => some []
    | '[' :: rest => do
      let (line, s) ← header rest
      next line s
    | c :: rest =>
      if c = '#' || c = '\n' || c = '\r' then do linesFrom fuel (← endLine (c :: rest))
      else do
        let ((k, v), s) ← pair (value depthLimit) (c :: rest)
        next (.assignment k.1 k.2 v) s

/-- All lines of a text, without the mark that tells its encoding. -/
def lines (text : String) : Option (List Line) :=
  let s := match text.toList with
    | '\uFEFF' :: rest => rest
    | s => s
  linesFrom (s.length + 1) s

/-- Add the assignments of a section to its table. -/
def assignAll : List Line → Members → Option Members
  | .assignment path name v :: rest, t => (t.assign v path name).bind (assignAll rest)
  | _, t => some t

/-- Fill the tables of all headers. -/
def fillAll : List Line → Members → Option Members
  | [], t => some t
  | .assignment .. :: rest, t => fillAll rest t
  | .header listed path name :: rest, t =>
    (t.fill listed (assignAll rest) path name).bind (fillAll rest)

/-- The members of a document; none if it is not well-formed. -/
def parse (text : String) : Option (List (String × Json)) := do
  let lines ← lines text
  let t ← assignAll lines []
  (fillAll lines t).map membersToJson

end Colloquy.Toml
