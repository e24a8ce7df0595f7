import Colloquy.Json.Text
import Colloquy.Text.Blank

/-! # Finding JSON in prose

A model that was asked for JSON may wrap it in words.  `locate` tries the whole text, then the first
fenced block, then the first bracketed span; whatever it returns is a contiguous part of the text
and is well-formed JSON. -/

namespace Colloquy.Output

/-- The text up to the bracket that closes the one at its start.  Only one kind of bracket is
counted; brackets within strings are not, and within strings a backslash hides the next character.
-/
def closeFrom (opening closing : Char) :
    Nat → Bool → Bool → List Char → Option (List Char)
  | _, _, _, [] => none
  | depth, inString, escaped, c :: s =>
    let go (depth : Nat) (inString escaped : Bool) : Option (List Char) :=
      (closeFrom opening closing depth inString escaped s).map (c :: ·)
    if escaped then go depth inString false
    else if c = '\\' && inString then go depth inString true
    else if c = '"' then go depth (!inString) false
    else if inString then go depth inString false
    else if c = opening then go (depth + 1) inString false
    else if c = closing then
      if depth ≤ 1 then some [c] else go (depth - 1) inString false
    else go depth inString false

/-- The span from the bracket at the start of a text to the one that closes it: `closeFrom` at depth
0, outside of strings. -/
def bracketed (opening closing : Char) (s : List Char) : Option (List Char) :=
  closeFrom opening closing 0 false false s

/-- Whether a text begins with the three backquotes that begin and end a fenced block. -/
def isFence : List Char → Bool
  | a :: b :: c :: _ => a = '\x60' && b = '\x60' && c = '\x60'
  | _ => false

/-- Split a text at its first fence, which belongs to neither part. -/
def splitFence : List Char → Option (List Char × List Char)
  | [] => none
  | c :: s =>
    if isFence (c :: s) then some ([], s.drop 2)
    else (splitFence s).map fun r => (c :: r.1, r.2)

/-- A text without the word `json` at its start. -/
def dropLanguage : List Char → List Char
  | 'j' :: 's' :: 'o' :: 'n' :: s => s
  | s => s

/-- What stands between the first two fences, without the word `json` and the blanks at both ends.
-/
def fencedBlock (s : List Char) : Option (List Char) := do
  let (_, rest) ← splitFence s
  let (inner, _) ← splitFence rest
  some (Text.trim (dropLanguage inner))

/-- Whether a character opens an object or an array. -/
def opensSpan (c : Char) : Bool := c = '{' || c = '['

/-- The span from the first `{` or `[` on, `bracketed` by brackets of that kind. -/
def firstSpan (s : List Char) : Option (List Char) :=
  match s.dropWhile fun c => !opensSpan c with
  | [] => none
  | c :: rest =>
    if c = '[' then bracketed '[' ']' (c :: rest) else bracketed '{' '}' (c :: rest)

/-- The candidate, if it is `Json.wellFormed`. -/
def accept (candidate : Option (List Char)) : Option (List Char) :=
  candidate.filter Json.wellFormed

/-- The JSON value in a text: the first of the whole text, `fencedBlock` and `firstSpan` that is
accepted. -/
def locate (text : List Char) : Option (List Char) :=
  let s := Text.trim text
  (accept (some s)).or <| (accept (fencedBlock s)).or (accept (firstSpan s))

end Colloquy.Output
