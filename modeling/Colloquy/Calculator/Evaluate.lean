import Colloquy.Calculator.Arithmetic

/-! # Evaluation of arithmetic

Precedence climbing over the tokens of an expression, evaluating on the way.  A missing value is
reported when its operator is applied, so it hides a malformed rest. -/

namespace Colloquy.Calculator

/-- Why an expression has no value. -/
inductive EvalError where
  /-- The expression is malformed. -/
  | malformed (cause : SyntaxError)
  /-- The expression is well formed and has no finite value. -/
  | math (cause : MathError)
deriving DecidableEq, Repr

namespace EvalError

/-- The wording of a missing value. -/
def message : EvalError → String
  | malformed cause => cause.message
  | math cause => cause.message

end EvalError

variable {V : Type}

mutual

/-- The value of the longest expression at the front whose operators bind at least as tightly as
`power`, and the tokens after it.  Every second call takes a token, which bounds the fuel needed. -/
def expression (a : Arithmetic V) :
    Nat → Nat → List Token → Except EvalError (V × List Token)
  | 0, _, _ => .error (.malformed .unexpectedEnd)
  | fuel + 1, power, tokens => do
    let (x, rest) ← operand a fuel tokens
    extend a fuel power x rest

/-- The value of the operand at the front: a numeral, a sign and what follows it, or an expression
in parentheses.  A sign binds more tightly than products and less tightly than powers. -/
def operand (a : Arithmetic V) : Nat → List Token → Except EvalError (V × List Token)
  | 0, _ => .error (.malformed .unexpectedEnd)
  | _ + 1, [] => .error (.malformed .unexpectedEnd)
  | _ + 1, .number n :: rest => .ok (a.literal n, rest)
  | fuel + 1, .op .sub :: rest => do
    let (x, rest) ← expression a fuel 3 rest
    .ok (a.neg x, rest)
  | fuel + 1, .opening :: rest => do
    let (x, rest) ← expression a fuel 0 rest
    match rest with
    | .closing :: rest => .ok (x, rest)
    | _ => .error (.malformed .expectedClosing)
  | _ + 1, token :: _ => .error (.malformed (.unexpectedToken token))

/-- Go on from a left operand with the operators `o` that bind tightly enough, `power ≤ o.power`;
each is applied as soon as its right operand is read. -/
def extend (a : Arithmetic V) :
    Nat → Nat → V → List Token → Except EvalError (V × List Token)
  | 0, _, x, tokens => .ok (x, tokens)
  | fuel + 1, power, x, .op o :: rest =>
    if o.power < power then .ok (x, .op o :: rest)
    else do
      let (y, rest) ← expression a fuel o.rightPower rest
      match a.apply o x y with
      | .ok z => extend a fuel power z rest
      | .error e => .error (.math e)
  | _ + 1, _, x, tokens => .ok (x, tokens)

end

/-- The value of a list of tokens that is one `expression` and has a finite value. -/
def evaluateTokens (a : Arithmetic V) (tokens : List Token) : Except EvalError V := do
  match ← expression a (2 * tokens.length + 2) 0 tokens with
  | (x, []) => if a.isFinite x then .ok x else .error (.math .notFinite)
  | (_, token :: rest) =>
    .error (.malformed (.leftOver token (tokens.length - (rest.length + 1))))

/-- The value of an expression: `evaluateTokens` of `lex`. -/
def evaluate (a : Arithmetic V) (text : List Char) : Except EvalError V :=
  match lex text with
  | .error e => .error (.malformed e)
  | .ok tokens => evaluateTokens a tokens

end Colloquy.Calculator
