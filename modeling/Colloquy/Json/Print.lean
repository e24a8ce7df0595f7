import Colloquy.Json.Basic

/-! # JSON text of values

The compact form has no blanks; the indented form has one member or item a line.  Strings escape the
quote, the backslash and control characters only. -/

namespace Colloquy.Json

/-- Doubles keep a point or an exponent, and are written positionally from `0.00001` up to below ten
to the sixteenth. -/
def numberStyle : DecimalStyle := ⟨-5, 15, true, true⟩

/-- A lower case hexadecimal digit. -/
def hexDigit (n : Nat) : Char :=
  if n < 10 then Char.ofNat (48 + n) else Char.ofNat (87 + n)

/-- One character inside a string. -/
def escapeChar (c : Char) : List Char :=
  if c = '"' then ['\\', '"']
  else if c = '\\' then ['\\', '\\']
  else if c = '\n' then ['\\', 'n']
  else if c = '\r' then ['\\', 'r']
  else if c = '\t' then ['\\', 't']
  else if c = '\x08' then ['\\', 'b']
  else if c = '\x0C' then ['\\', 'f']
  else if c.toNat < 0x20 then
    ['\\', 'u', '0', '0', hexDigit (c.toNat / 16), hexDigit (c.toNat % 16)]
  else [c]

/-- A string in quotes. -/
def printString (s : String) : List Char :=
  '"' :: (s.toList.flatMap escapeChar ++ ['"'])

/-- An integer in decimal. -/
def printInt (i : Int) : List Char :=
  if i < 0 then '-' :: Nat.toDigits 10 i.natAbs else Nat.toDigits 10 i.natAbs

/-- A number. -/
def printNumber : JsonNumber → List Char
  | .int i => printInt i.val
  | .float x => (x.render numberStyle).toList

mutual

/-- The compact text of a value. -/
def print : Json → List Char
  | .null => ['n', 'u', 'l', 'l']
  | .bool true => ['t', 'r', 'u', 'e']
  | .bool false => ['f', 'a', 'l', 's', 'e']
  | .num n => printNumber n
  | .str s => printString s
  | .arr items => '[' :: (printItems items ++ [']'])
  | .obj fields => '{' :: (printFields fields ++ ['}'])

/-- Items separated by commas. -/
def printItems : List Json → List Char
  | [] => []
  | [v] => print v
  | v :: w :: rest => print v ++ ',' :: printItems (w :: rest)

/-- Members separated by commas. -/
def printFields : List (String × Json) → List Char
  | [] => []
  | [(name, v)] => printString name ++ ':' :: print v
  | (name, v) :: w :: rest =>
    printString name ++ ':' :: (print v ++ ',' :: printFields (w :: rest))

end

/-- The compact text of a value, as a string. -/
def compact (v : Json) : String := String.ofList v.print

/-- A line break and two blanks for each level. -/
def lineBreak (level : Nat) : List Char :=
  '\n' :: List.replicate (2 * level) ' '

mutual

/-- The indented text of a value at some level of nesting. -/
def printIndented (level : Nat) : Json → List Char
  | .arr [] => ['[', ']']
  | .arr (v :: rest) =>
    '[' :: (lineBreak (level + 1) ++ printIndented (level + 1) v ++
      printIndentedItems (level + 1) rest ++ lineBreak level ++ [']'])
  | .obj [] => ['{', '}']
  | .obj ((name, v) :: rest) =>
    '{' :: (lineBreak (level + 1) ++ printString name ++ ':' :: ' ' ::
      printIndented (level + 1) v ++ printIndentedFields (level + 1) rest ++
      lineBreak level ++ ['}'])
  | v => print v

/-- The items after the first, each on its own line. -/
def printIndentedItems (level : Nat) : List Json → List Char
  | [] => []
  | v :: rest =>
    ',' :: (lineBreak level ++ printIndented level v ++ printIndentedItems level rest)

/-- The members after the first, each on its own line. -/
def printIndentedFields (level : Nat) : List (String × Json) → List Char
  | [] => []
  | (name, v) :: rest =>
    ',' :: (lineBreak level ++ printString name ++ ':' :: ' ' ::
      printIndented level v ++ printIndentedFields level rest)

end

/-- The indented text of a value, as a string. -/
def indented (v : Json) : String := String.ofList (v.printIndented 0)

end Colloquy.Json
