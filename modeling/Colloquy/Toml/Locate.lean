import Colloquy.Toml.Document
import Colloquy.Toml.Fault

/-! # Places in a TOML document

`locate` finds the passage of a text that says what some names stand for: the value of an assignment,
which may stand in inline tables, or the header of a table. -/

namespace Colloquy.Toml

/-- A passage of a document that says what some names stand for. -/
structure Passage where
  /-- The names. -/
  names : List String
  /-- The text from the passage on. -/
  start : List Char
  /-- The text after the passage. -/
  stop : List Char

/-- The names of a key and what its value is read from. -/
def keyed (s : List Char) : Option (List String × List Char) := do
  let (k, s) ← key s
  some (k.1 ++ [k.2], skipBlanks (← expect '=' s))

/-- An assignment below some names. -/
def assigned (table : List String) (s : List Char) : Option Passage := do
  let (names, start) ← keyed s
  let (_, stop) ← value depthLimit start
  some ⟨table ++ names, start, stop⟩

/-- The passages of an inline table below some names, after its opening brace or a comma; each takes at
least one of `fuel` characters. -/
def inlinePassages (table : List String) : Nat → List Char → List Passage
  | 0, _ => []
  | fuel + 1, s =>
    match assigned table s with
    | none => []
    | some p =>
      match skipBlanks p.stop with
      | ',' :: rest => p :: inlinePassages table fuel rest
      | _ => [p]

/-- The passages of a document, the current table having some names; each line takes at least one of
`fuel` characters. -/
def passagesFrom : Nat → List String → List Char → List Passage
  | 0, _, _ => []
  | fuel + 1, table, s =>
    let rest (table : List String) (s : List Char) : List Passage :=
      match endLine s with
      | some s => passagesFrom fuel table s
      | none => []
    match skipBlanks s with
    | [] => []
    | '[' :: s =>
      match header s with
      | some (.header _ path name, stop) =>
        ⟨path ++ [name], '[' :: s, stop⟩ :: rest (path ++ [name]) stop
      | _ => []
    | s =>
      match assigned table s with
      | some p => p :: rest table p.stop
      | none => rest table s

/-- The passage among some that says what `names` stand for; it may stand in an inline table among
them, each of which takes at least one of `fuel` names. -/
def findPassage : Nat → List String → List Passage → Option Passage
  | 0, _, _ => none
  | fuel + 1, names, passages =>
    passages.findSome? fun p =>
      if p.names = names then some p
      else
        match p.names.isPrefixOf names, p.start with
        | true, '{' :: rest => findPassage fuel names (inlinePassages p.names (rest.length + 1) rest)
        | _, _ => none

/-- The first byte of what a text says that `names` stand for, and the byte after the last one.
Tables that are neither inline nor have a header are looked for in vain, and the place is the start
of the text. -/
def locate (text : String) (names : List String) : Nat × Nat :=
  let s := text.toList
  let offset (rest : List Char) : Nat := (Utf8.encode (s.take (s.length - rest.length))).length
  match findPassage (names.length + 1) names (passagesFrom (s.length + 1) [] s) with
  | some p => (offset p.start, offset p.stop)
  | none => (0, 0)

end Colloquy.Toml
