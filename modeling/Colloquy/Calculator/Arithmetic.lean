import Colloquy.Calculator.Token

/-! # Arithmetic

The operations that the calculator is built from, as a record: the evaluator works over any numbers
that have them.  `Arithmetic.double` gives them for doubles. -/

namespace Colloquy.Calculator

/-- Numbers that can be calculated with. -/
structure Arithmetic (V : Type) where
  /-- The number that a numeral stands for. -/
  literal : Numeral → V
  /-- The number with the other sign. -/
  neg : V → V
  /-- The sum. -/
  add : V → V → V
  /-- The difference. -/
  sub : V → V → V
  /-- The product. -/
  mul : V → V → V
  /-- The quotient, for a divisor that is not zero. -/
  div : V → V → V
  /-- The remainder, for a divisor that is not zero. -/
  rem : V → V → V
  /-- The power. -/
  pow : V → V → V
  /-- Whether a number is zero. -/
  isZero : V → Bool
  /-- Whether a number is finite. -/
  isFinite : V → Bool

/-- Ways in which a well-formed expression has no value. -/
inductive MathError where
  /-- A quotient or remainder by zero. -/
  | divisionByZero
  /-- The result is infinite or no number. -/
  | notFinite
deriving DecidableEq, Repr

namespace MathError

/-- The wording of a missing value. -/
def message : MathError → String
  | divisionByZero => "division by zero"
  | notFinite => "result is not a finite number"

end MathError

namespace Arithmetic

/-- The result of an operator; `div` and `rem` fail with `divisionByZero` for a zero divisor. -/
def apply {V : Type} (a : Arithmetic V) (o : Operator) (x y : V) : Except MathError V :=
  match o with
  | .add => .ok (a.add x y)
  | .sub => .ok (a.sub x y)
  | .mul => .ok (a.mul x y)
  | .div => if a.isZero y then .error .divisionByZero else .ok (a.div x y)
  | .rem => if a.isZero y then .error .divisionByZero else .ok (a.rem x y)
  | .pow => .ok (a.pow x y)

end Arithmetic

/-- A double as the machine's number. -/
def toMachine (x : Double) : Float := Float.ofBits x.bits

/-- The machine's number as a double. -/
def ofMachine (x : Float) : Double := ⟨x.toBits⟩

/-- The remainder of a division that truncates, with the sign of the dividend; it is exact. -/
def remainder (x y : Double) : Double :=
  match x.value, y.value with
  | .finite negative m e, .finite _ n f =>
    let scale := min e f
    let dividend := m * Nat.pow 2 (e - scale).toNat
    let divisor := n * Nat.pow 2 (f - scale).toNat
    if divisor = 0 then ofMachine (0 / 0)
    else .ofScaled negative (dividend % divisor) 1 scale
  | .finite .., .infinite _ => x
  | _, _ => ofMachine (0 / 0)

/-- Arithmetic of doubles. -/
def Arithmetic.double : Arithmetic Double where
  literal := Numeral.toDouble
  neg := Double.neg
  add x y := ofMachine (toMachine x + toMachine y)
  sub x y := ofMachine (toMachine x - toMachine y)
  mul x y := ofMachine (toMachine x * toMachine y)
  div x y := ofMachine (toMachine x / toMachine y)
  rem := remainder
  pow x y := ofMachine (Float.pow (toMachine x) (toMachine y))
  isZero x := x.numericEq ⟨0⟩
  isFinite := Double.isFinite

end Colloquy.Calculator
