import Colloquy.Json.Problem
import Colloquy.Text.Utf8

/-! # Reports about TOML documents

`Refusal` is why a document does not give a value of some type, and `Fault.shown` the text of a
report about it: the place, the line of the document that the fault begins in, marks below the faulty
part, and a message.  Where a fault is, and what is said of one of form, is up to the reader of
documents that the program is built with, `Wording`. -/

namespace Colloquy.Toml

/-- Why a document does not give a value of some type. -/
inductive Refusal where
  /-- It is not well-formed. -/
  | malformed
  /-- A value in it is not what it should be. -/
  | unsuited (problem : Json.Problem)
deriving DecidableEq, Repr

/-- What is wrong with a document, from byte `start` up to byte `stop` of its text. -/
structure Fault where
  /-- The first byte. -/
  start : Nat
  /-- The byte after the last one. -/
  stop : Nat
  /-- What is wrong. -/
  message : String
deriving DecidableEq, Repr

namespace Fault

/-- The line of byte `index`, and its column in that line, both counted from zero.  The column is in
characters, unless the byte is a part of a longer character; then it is in bytes.  A byte after the
last one counts from the last one on. -/
def place (bytes : List UInt8) (index : Nat) : Nat × Nat :=
  if bytes.isEmpty then (0, index)
  else
    let last := min index (bytes.length - 1)
    let before := bytes.take last
    let opening := (before.reverse.takeWhile (· ≠ 10)).reverse
    let column := match Utf8.decode? (opening ++ (bytes.drop last).take 1) with
      | .ok s => s.length - 1
      | .error _ => opening.length
    (before.count 10, column + (index - last))

/-- The line and the column of a fault. -/
def position (text : String) (f : Fault) : Nat × Nat := place (Utf8.encode text.toList) f.start

/-- The line of the text that a fault begins in. -/
def line (text : String) (f : Fault) : String :=
  String.ofList ((text.toList.splitOn '\n')[(f.position text).1]?.getD [])

/-- The empty column beside `line`, with a rule. -/
def gutter (line : Nat) : String := "".pushn ' ' ((toString line).length + 1) ++ "|"

/-- The marks below a line of `bytes` bytes, from `column` on for a part of `length` bytes; at least
one. -/
def marks (column length bytes : Nat) : String :=
  "".pushn ' ' (column + 1) ++ "".pushn '^' (max 1 (min length (bytes - column)))

/-- What a report says before it quotes the line. -/
def heading (text : String) (f : Fault) : String :=
  let (line, column) := f.position text
  s!"TOML parse error at line {line + 1}, column {column + 1}\n" ++ gutter (line + 1) ++
    s!"\n{line + 1} | "

/-- What a report says after it has quoted the line. -/
def footing (text : String) (f : Fault) : String :=
  let (line, column) := f.position text
  "\n" ++ gutter (line + 1) ++ marks column (f.stop - f.start) (f.line text).utf8ByteSize ++
    "\n" ++ f.message ++ "\n"

/-- The text of the report about a fault. -/
def shown (text : String) (f : Fault) : String := f.heading text ++ f.line text ++ f.footing text

end Fault

/-- How a reader of documents words its reports. -/
structure Wording where
  /-- The fault of a text that is not well-formed. -/
  malformed : String → Fault
  /-- The first byte of the value that is refused, and the byte after its last one. -/
  place : String → Nat × Nat

namespace Wording

/-- The fault of a text that is refused. -/
def fault (w : Wording) (text : String) : Refusal → Fault
  | .malformed => w.malformed text
  | .unsuited problem => ⟨(w.place text).1, (w.place text).2, problem.message⟩

/-- The text of the report about a text that is refused. -/
def report (w : Wording) (text : String) (r : Refusal) : String := (w.fault text r).shown text

end Wording

end Colloquy.Toml
