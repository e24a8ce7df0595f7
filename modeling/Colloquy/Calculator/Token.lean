import Colloquy.Binary.Number
import Colloquy.Text.Blank

/-! # Arithmetic tokens

Numerals, operators and parentheses, and the lexer that finds them in a text.  A numeral is digits
with at most one point and at least one digit; blanks may stand between tokens. -/

namespace Colloquy.Calculator

/-- A binary operator; the minus is also a sign. -/
inductive Operator where
  /-- Addition. -/
  | add
  /-- Subtraction, and negation. -/
  | sub
  /-- Multiplication. -/
  | mul
  /-- Division. -/
  | div
  /-- Remainder. -/
  | rem
  /-- Exponentiation. -/
  | pow
deriving DecidableEq, Repr

namespace Operator

/-- The operator's character. -/
def symbol : Operator → Char
  | add => '+'
  | sub => '-'
  | mul => '*'
  | div => '/'
  | rem => '%'
  | pow => '^'

/-- The operator of a character. -/
def ofChar? (c : Char) : Option Operator :=
  if c = '+' then some add
  else if c = '-' then some sub
  else if c = '*' then some mul
  else if c = '/' then some div
  else if c = '%' then some rem
  else if c = '^' then some pow
  else none

/-- How tightly the operator binds. -/
def power : Operator → Nat
  | add | sub => 1
  | mul | div | rem => 2
  | pow => 4

/-- Least binding power of the right operand: exponentiation groups to the right, all else to the
left. -/
def rightPower : Operator → Nat
  | add | sub => 2
  | mul | div | rem => 3
  | pow => 4

end Operator

/-- The number `digits / 10 ^ places`. -/
structure Numeral where
  /-- All digits as one number. -/
  digits : Nat
  /-- Number of digits after the point. -/
  places : Nat
deriving DecidableEq, Repr

/-- Whether a character may stand in a numeral. -/
def isNumeralChar (c : Char) : Bool := c.isDigit || c = '.'

namespace Numeral

/-- The number that digits stand for. -/
def ofDigits (digits : List Char) : Nat :=
  digits.foldl (fun n c => n * 10 + (c.toNat - 48)) 0

/-- The numeral of a run of digits and points; at most one point and at least one digit. -/
def ofChars? (s : List Char) : Option Numeral :=
  let whole := s.takeWhile Char.isDigit
  let rest := s.dropWhile Char.isDigit
  let fraction := rest.drop 1
  if fraction.all Char.isDigit && !(whole.isEmpty && fraction.isEmpty) then
    some ⟨ofDigits (whole ++ fraction), fraction.length⟩
  else none

/-- The nearest double. -/
def toDouble (n : Numeral) : Double := .ofRatio false n.digits (Nat.pow 10 n.places)

end Numeral

/-- A token of an arithmetic expression. -/
inductive Token where
  /-- A number. -/
  | number (value : Numeral)
  /-- An operator. -/
  | op (operator : Operator)
  /-- An opening parenthesis. -/
  | opening
  /-- A closing parenthesis. -/
  | closing
deriving DecidableEq, Repr

/-- How numbers are shown in messages. -/
def messageStyle : DecimalStyle := ⟨-4, 15, false, true⟩

namespace Token

/-- The token as messages show it. -/
def describe : Token → String
  | number n => "Number(" ++ n.toDouble.render messageStyle ++ ")"
  | op o => "Op('" ++ o.symbol.toString ++ "')"
  | opening => "Open"
  | closing => "Close"

end Token

/-- Ways in which a text is no arithmetic expression. -/
inductive SyntaxError where
  /-- A character that begins no token. -/
  | unexpectedCharacter (c : Char)
  /-- A run of digits and points that is no numeral. -/
  | invalidNumber (literal : String)
  /-- A token where an operand is needed. -/
  | unexpectedToken (token : Token)
  /-- A token after the end of the expression, with its position. -/
  | leftOver (token : Token) (position : Nat)
  /-- A parenthesis that is not closed where it has to be. -/
  | expectedClosing
  /-- The end where an operand is needed. -/
  | unexpectedEnd
deriving DecidableEq, Repr

namespace SyntaxError

/-- The wording of a malformed expression. -/
def message : SyntaxError → String
  | unexpectedCharacter c => "unexpected character '" ++ c.toString ++ "'"
  | invalidNumber literal => "invalid number '" ++ literal ++ "'"
  | unexpectedToken t => "unexpected " ++ t.describe
  | leftOver t n => s!"unexpected {t.describe} at token {n}"
  | expectedClosing => "expected ')'"
  | unexpectedEnd => "unexpected end of expression"

end SyntaxError

/-- The token of a single character. -/
def Token.ofChar? (c : Char) : Option Token :=
  if c = '(' then some .opening
  else if c = ')' then some .closing
  else (Operator.ofChar? c).map .op

/-- The tokens of a text, of which a run of numeral characters has been read, last character
first. -/
def lexFrom : List Char → List Char → Except SyntaxError (List Token)
  | run, [] => endRun run (.ok [])
  | run, c :: s =>
    if isNumeralChar c then lexFrom (c :: run) s
    else
      endRun run <|
        if Text.isBlank c then lexFrom [] s
        else
          match Token.ofChar? c with
          | some t => (lexFrom [] s).map (t :: ·)
          | none => .error (.unexpectedCharacter c)
where
  /-- Put the numeral of a run, if there is one, before the tokens that follow it. -/
  endRun (run : List Char) (rest : Except SyntaxError (List Token)) :
      Except SyntaxError (List Token) :=
    if run.isEmpty then rest
    else
      match Numeral.ofChars? run.reverse with
      | some n => rest.map (.number n :: ·)
      | none => .error (.invalidNumber (String.ofList run.reverse))

/-- The tokens of a text, `lexFrom` with no run read. -/
def lex (s : List Char) : Except SyntaxError (List Token) := lexFrom [] s

end Colloquy.Calculator
