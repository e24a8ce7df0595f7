import Colloquy.Json.Print
import Colloquy.Text.Quoted

/-! # What can be wrong with JSON

A text can be malformed, and a well-formed value can be of the wrong shape.  Both are causes with
one wording each.  `Fault` is a cause found while reading a text: it remembers what was left of the
text, from which `Fault.position` counts the line and the column. -/

namespace Colloquy.Json

/-- Ways in which a text is not JSON. -/
inductive Malformed where
  /-- The text ends where a value is needed. -/
  | endInValue
  /-- The text ends within an array. -/
  | endInList
  /-- The text ends within an object. -/
  | endInObject
  /-- The text ends within a string. -/
  | endInString
  /-- A name is not followed by a colon. -/
  | expectedColon
  /-- An item is followed by neither a comma nor the end of the array. -/
  | expectedListEnd
  /-- A member is followed by neither a comma nor the end of the object. -/
  | expectedObjectEnd
  /-- A word begins like a literal and goes on otherwise. -/
  | expectedLiteral
  /-- No value begins here. -/
  | expectedValue
  /-- A backslash is followed by no escape. -/
  | invalidEscape
  /-- A number has no digit where it needs one, or one too many after a leading zero. -/
  | invalidNumber
  /-- A number is too large for a double. -/
  | numberOutOfRange
  /-- A string contains a control character. -/
  | controlCharacter
  /-- A member does not begin with a string. -/
  | keyNotString
  /-- Half of a surrogate pair stands alone. -/
  | loneSurrogate
  /-- A leading surrogate is not followed by another escape. -/
  | endInSurrogate
  /-- A comma stands before the end of an array or object. -/
  | trailingComma
  /-- Something follows the value. -/
  | trailingCharacters
  /-- Arrays and objects nest too deeply. -/
  | tooDeep
deriving DecidableEq, Repr

namespace Malformed

/-- The wording of a fault of form. -/
def message : Malformed → String
  | endInValue => "EOF while parsing a value"
  | endInList => "EOF while parsing a list"
  | endInObject => "EOF while parsing an object"
  | endInString => "EOF while parsing a string"
  | expectedColon => "expected `:`"
  | expectedListEnd => "expected `,` or `]`"
  | expectedObjectEnd => "expected `,` or `\x7d`"
  | expectedLiteral => "expected ident"
  | expectedValue => "expected value"
  | invalidEscape => "invalid escape"
  | invalidNumber => "invalid number"
  | numberOutOfRange => "number out of range"
  | controlCharacter => "control character (\\u0000-\\u001F) found while parsing a string"
  | keyNotString => "key must be a string"
  | loneSurrogate => "lone leading surrogate in hex escape"
  | endInSurrogate => "unexpected end of hex escape"
  | trailingComma => "trailing comma"
  | trailingCharacters => "trailing characters"
  | tooDeep => "recursion limit exceeded"

end Malformed

/-- What was found where something else was expected. -/
inductive Found where
  /-- The literal `null`. -/
  | null
  /-- A truth value. -/
  | bool (value : Bool)
  /-- A whole number. -/
  | integer (value : Int)
  /-- A number with a fraction or an exponent, or a very large one. -/
  | float (value : Double)
  /-- A string. -/
  | string (value : String)
  /-- An array. -/
  | sequence
  /-- An object. -/
  | map
  /-- A bare name of an alternative. -/
  | unitVariant
deriving DecidableEq, Repr

namespace Found

/-- What a value counts as when it is not what was expected. -/
def ofJson : Json → Found
  | .null => .null
  | .bool b => .bool b
  | .num (.int i) => .integer i.val
  | .num (.float x) => .float x
  | .str s => .string s
  | .arr _ => .sequence
  | .obj _ => .map

/-- The wording of what was found. -/
def message : Found → String
  | null => "null"
  | bool b => s!"boolean `{b}`"
  | integer i => s!"integer `{i}`"
  | float x => "floating point `" ++ x.render numberStyle ++ "`"
  | string s => "string " ++ Text.quoted s
  | sequence => "sequence"
  | map => "map"
  | unitVariant => "unit variant"

end Found

/-- Why a text or a value could not be read as some type. -/
inductive Problem where
  /-- The text is not JSON. -/
  | malformed (cause : Malformed)
  /-- A value has the wrong type. -/
  | invalidType (found : Found) (expected : String)
  /-- A value has the right type and cannot be represented. -/
  | invalidValue (found : Found) (expected : String)
  /-- An array has the wrong number of items. -/
  | invalidLength (length : Nat) (expected : String)
  /-- A name is none of the alternatives. -/
  | unknownVariant (name : String) (known : List String)
  /-- A member is missing. -/
  | missingField (name : String)
  /-- A member occurs twice. -/
  | duplicateField (name : String)
  /-- A value fits none of several types. -/
  | noAlternative (type : String)
deriving DecidableEq, Repr

namespace Problem

/-- A list of alternatives. -/
def alternatives : List String → String
  | [] => "there are no variants"
  | [a] => s!"expected `{a}`"
  | [a, b] => s!"expected `{a}` or `{b}`"
  | names => "expected one of " ++ String.intercalate ", " (names.map fun n => s!"`{n}`")

/-- The wording of a problem. -/
def message : Problem → String
  | malformed cause => cause.message
  | invalidType found expected => s!"invalid type: {found.message}, expected {expected}"
  | invalidValue found expected => s!"invalid value: {found.message}, expected {expected}"
  | invalidLength n expected => s!"invalid length {n}, expected {expected}"
  | unknownVariant name known => s!"unknown variant `{name}`, {alternatives known}"
  | missingField name => s!"missing field `{name}`"
  | duplicateField name => s!"duplicate field `{name}`"
  | noAlternative type => s!"data did not match any variant of untagged enum {type}"

end Problem

/-- A problem met while reading a text. -/
structure Fault where
  /-- What is wrong. -/
  problem : Problem
  /-- What was left of the text. -/
  rest : List Char
  /-- How many bytes of the rest count as read already. -/
  past : Nat
  /-- Whether the place is settled; an unsettled fault takes the place at which the enclosing value
  ends. -/
  placed : Bool
deriving DecidableEq, Repr

/-- A place in a text. -/
structure Position where
  /-- Line, from one. -/
  line : Nat
  /-- Bytes since the start of the line. -/
  column : Nat
deriving DecidableEq, Repr

namespace Position

/-- The place after a character. -/
def after (p : Position) (c : Char) : Position :=
  if c = '\n' then ⟨p.line + 1, 0⟩ else ⟨p.line, p.column + c.utf8Size⟩

/-- The place after some bytes of a text; bytes within a character count as well. -/
def afterBytes : Position → Nat → List Char → Position
  | p, _, [] => p
  | p, n, c :: s =>
    if n = 0 then p
    else if c.utf8Size ≤ n then afterBytes (p.after c) (n - c.utf8Size) s
    else ⟨p.line, p.column + n⟩

end Position

namespace Fault

/-- A fault of form, just before the rest. -/
def here (cause : Malformed) (rest : List Char) : Fault :=
  ⟨.malformed cause, rest, 0, true⟩

/-- A fault of form, just after the next byte of the rest. -/
def next (cause : Malformed) (rest : List Char) : Fault :=
  ⟨.malformed cause, rest, 1, true⟩

/-- Settle the place of a fault at the given rest. -/
def placeAt (rest : List Char) (f : Fault) : Fault :=
  if f.placed then f else { f with rest := rest, past := 0, placed := true }

/-- Line and column of a fault in the text that was read. -/
def position (text : List Char) (f : Fault) : Position :=
  let read := text.take (text.length - f.rest.length)
  (read.foldl Position.after ⟨1, 0⟩).afterBytes f.past f.rest

end Fault

/-- Why a text could not be decoded. -/
structure TextError where
  /-- What is wrong. -/
  problem : Problem
  /-- Where, unless the place was never settled. -/
  position : Option Position
deriving DecidableEq, Repr

namespace TextError

/-- The wording of a decoding error. -/
def message (e : TextError) : String :=
  match e.position with
  | some p => s!"{e.problem.message} at line {p.line} column {p.column}"
  | none => e.problem.message

/-- The error for a fault in a text. -/
def ofFault (text : List Char) (f : Fault) : TextError :=
  ⟨f.problem, if f.placed then some (f.position text) else none⟩

end TextError

end Colloquy.Json
