import Colloquy.Calculator.Evaluate

/-! # The grammar of arithmetic

Expressions as trees, how they are written, and what they come to:

    expression := term (("+" | "-") term)*
    term       := unary (("*" | "/" | "%") unary)*
    unary      := "-" unary | primary | primary "^" unary
    primary    := number | "(" expression ")"

Sums and products group to the left.  `Expr.Written` is this grammar over tokens, `Spelled` says how
tokens are spelled as a text, and `Expr.value` is evaluation by recursion on the tree, which fails
exactly where a divisor is zero (`value_eq_none`).  None of this mentions the binding powers by
which the evaluator finds its way. -/

namespace Colloquy.Calculator

/-- An arithmetic expression.  Parentheses leave no trace. -/
inductive Expr where
  /-- A number. -/
  | number (n : Numeral)
  /-- An expression with a sign before it. -/
  | neg (e : Expr)
  /-- Two expressions with an operator between them. -/
  | binary (o : Operator) (l r : Expr)
deriving DecidableEq, Repr

/-- The categories of phrases. -/
inductive Category where
  /-- Terms, added and subtracted. -/
  | expression
  /-- Unary phrases, multiplied and divided. -/
  | term
  /-- Primary phrases with signs and powers. -/
  | unary
  /-- Numbers and parentheses. -/
  | primary
deriving DecidableEq, Repr

namespace Operator

/-- Whether an operator adds or subtracts. -/
def Additive (o : Operator) : Prop := o = add ∨ o = sub

/-- Whether an operator divides by its right operand. -/
def Divides (o : Operator) : Prop := o = div ∨ o = rem

/-- Whether an operator multiplies or divides. -/
def Multiplicative (o : Operator) : Prop := o = mul ∨ o.Divides

end Operator

/-! ## Writing -/

namespace Expr

/-- How the expressions of a category are written as tokens. -/
inductive Written : Category → Expr → List Token → Prop where
  /-- A number stands for itself. -/
  | number (n : Numeral) : Written .primary (.number n) [.number n]
  /-- Parentheses make any expression primary. -/
  | parens {e : Expr} {ts : List Token} (inner : Written .expression e ts) :
    Written .primary e (.opening :: (ts ++ [.closing]))
  /-- A primary phrase is unary. -/
  | primary {e : Expr} {ts : List Token} (only : Written .primary e ts) : Written .unary e ts
  /-- A sign before a unary phrase. -/
  | neg {e : Expr} {ts : List Token} (operand : Written .unary e ts) :
    Written .unary (.neg e) (.op .sub :: ts)
  /-- A primary phrase to the power of a unary one. -/
  | pow {l r : Expr} {ts us : List Token} (base : Written .primary l ts)
    (exponent : Written .unary r us) : Written .unary (.binary .pow l r) (ts ++ .op .pow :: us)
  /-- A unary phrase is a term. -/
  | unary {e : Expr} {ts : List Token} (only : Written .unary e ts) : Written .term e ts
  /-- A term and one more unary phrase. -/
  | product {o : Operator} {l r : Expr} {ts us : List Token} (multiplicative : o.Multiplicative)
    (left : Written .term l ts) (right : Written .unary r us) :
    Written .term (.binary o l r) (ts ++ .op o :: us)
  /-- A term is an expression. -/
  | term {e : Expr} {ts : List Token} (only : Written .term e ts) : Written .expression e ts
  /-- An expression and one more term. -/
  | sum {o : Operator} {l r : Expr} {ts us : List Token} (additive : o.Additive)
    (left : Written .expression l ts) (right : Written .term r us) :
    Written .expression (.binary o l r) (ts ++ .op o :: us)

end Expr

namespace Numeral

/-- How a numeral is spelled: digits with at most one point and at least one digit. -/
inductive Spelled : Numeral → List Char → Prop where
  /-- Digits alone. -/
  | whole {digits : List Char} (decimal : ∀ c ∈ digits, c.isDigit = true)
    (nonempty : digits ≠ []) : Spelled ⟨ofDigits digits, 0⟩ digits
  /-- Digits with a point among them or at an end. -/
  | point {whole fraction : List Char} (decimal : ∀ c ∈ whole ++ fraction, c.isDigit = true)
    (nonempty : whole ++ fraction ≠ []) :
    Spelled ⟨ofDigits (whole ++ fraction), fraction.length⟩ (whole ++ '.' :: fraction)

end Numeral

namespace Token

/-- How a token is spelled. -/
inductive Spelled : Token → List Char → Prop where
  /-- A number, by a numeral. -/
  | number {n : Numeral} {text : List Char} (numeral : n.Spelled text) : Spelled (.number n) text
  /-- An operator, by its character. -/
  | op (o : Operator) : Spelled (.op o) [o.symbol]
  /-- An opening parenthesis. -/
  | opening : Spelled .opening ['(']
  /-- A closing parenthesis. -/
  | closing : Spelled .closing [')']

end Token

/-- How tokens are spelled as a text, with any blanks before, between and after them. -/
inductive Spelled : List Token → List Char → Prop where
  /-- No tokens, no text. -/
  | nil : Spelled [] []
  /-- A blank before the rest. -/
  | blank {c : Char} {ts : List Token} {s : List Char} (blank : Text.isBlank c = true)
    (rest : Spelled ts s) : Spelled ts (c :: s)
  /-- A token before the rest. -/
  | token {t : Token} {text : List Char} {ts : List Token} {s : List Char}
    (first : t.Spelled text) (rest : Spelled ts s) : Spelled (t :: ts) (text ++ s)

/-- A text is a rendering of an expression. -/
def Expr.Rendered (e : Expr) (text : List Char) : Prop :=
  ∃ ts, Written .expression e ts ∧ Spelled ts text

/-- A text is a well-formed arithmetic expression. -/
def WellFormed (text : List Char) : Prop := ∃ e : Expr, e.Rendered text

/-! ## Values -/

namespace Operator

instance (o : Operator) : Decidable o.Divides := inferInstanceAs (Decidable (_ ∨ _))

end Operator

variable {V : Type} {a : Arithmetic V}

/-- The number that an operator makes of two, of which the second is not zero if it is a divisor. -/
def Arithmetic.combine (a : Arithmetic V) : Operator → V → V → V
  | .add => a.add
  | .sub => a.sub
  | .mul => a.mul
  | .div => a.div
  | .rem => a.rem
  | .pow => a.pow

/-- `Arithmetic.apply` fails on a divisor that is zero, and only there. -/
theorem Arithmetic.apply_eq (a : Arithmetic V) (o : Operator) (x y : V) :
    a.apply o x y =
      if o.Divides ∧ a.isZero y = true then .error .divisionByZero else .ok (a.combine o x y) := by
  cases o <;> simp [apply, combine, Operator.Divides]

namespace Expr

/-- The value of an expression, unless it divides by zero. -/
def value (a : Arithmetic V) : Expr → Option V
  | number n => some (a.literal n)
  | neg e => (e.value a).map a.neg
  | binary o l r => do
    let x ← l.value a
    let y ← r.value a
    if o.Divides ∧ a.isZero y = true then none else some (a.combine o x y)

/-- Whether some division or remainder of an expression gets a right operand that is zero. -/
inductive DividesByZero (a : Arithmetic V) : Expr → Prop where
  /-- It is the expression's own. -/
  | here {o : Operator} {l r : Expr} {y : V} (divides : o.Divides) (value : r.value a = some y)
    (zero : a.isZero y = true) : DividesByZero a (.binary o l r)
  /-- It is within what has the sign. -/
  | neg {e : Expr} (within : DividesByZero a e) : DividesByZero a (.neg e)
  /-- It is within the left operand. -/
  | left {o : Operator} {l r : Expr} (within : DividesByZero a l) : DividesByZero a (.binary o l r)
  /-- It is within the right operand. -/
  | right {o : Operator} {l r : Expr} (within : DividesByZero a r) : DividesByZero a (.binary o l r)

/-- **`Expr.value` is missing exactly where a divisor is zero.** -/
theorem value_eq_none {e : Expr} : e.value a = none ↔ e.DividesByZero a := by
  induction e with
  | number n => exact ⟨nofun, nofun⟩
  | neg e ih =>
    rw [value, Option.map_eq_none_iff, ih]
    exact ⟨.neg, fun | .neg within => within⟩
  | binary o l r ihl ihr =>
    rw [value]
    constructor
    · intro failed
      cases left : l.value a with
      | none => exact .left (ihl.mp left)
      | some x =>
        cases right : r.value a with
        | none => exact .right (ihr.mp right)
        | some y =>
          by_cases zero : o.Divides ∧ a.isZero y = true
          · exact .here zero.1 right zero.2
          · simp [left, right, zero] at failed
    · intro divides
      cases divides with
      | here divides right zero =>
        cases l.value a <;> simp [right, divides, zero]
      | left within => simp [ihl.mpr within]
      | right within => cases l.value a <;> simp [ihr.mpr within]

/-- What evaluating an expression comes to. -/
def outcome (a : Arithmetic V) (e : Expr) : Except EvalError V :=
  match e.value a with
  | none => .error (.math .divisionByZero)
  | some x => if a.isFinite x then .ok x else .error (.math .notFinite)

end Expr

end Colloquy.Calculator
