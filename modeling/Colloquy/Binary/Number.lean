import Colloquy.Binary.Shortest

/-! # Double and single precision numbers

The two formats as types of bit patterns, so that equality is equality of patterns, together with
the readings and roundings that the rest of the library asks for. -/

namespace Colloquy

/-- A double precision number, given by its bits. -/
structure Double where
  /-- The bit pattern. -/
  bits : UInt64
deriving DecidableEq, Repr, Inhabited

/-- A single precision number, given by its bits. -/
structure Single where
  /-- The bit pattern. -/
  bits : UInt32
deriving DecidableEq, Repr, Inhabited

namespace Double

/-- The value that the bits stand for. -/
def value (x : Double) : BinaryValue :=
  BinaryFormat.double.decode x.bits.toNat

/-- The nearest double to `±num / den · 2 ^ e`. -/
def ofScaled (negative : Bool) (num den : Nat) (e : Int) : Double :=
  ⟨UInt64.ofNat (BinaryFormat.double.encode negative num den e)⟩

/-- The nearest double to `±num / den`. -/
def ofRatio (negative : Bool) (num den : Nat) : Double :=
  ofScaled negative num den 0

/-- The nearest double to `±digits · 10 ^ exponent`. -/
def ofDecimal (negative : Bool) (digits : Nat) (exponent : Int) : Double :=
  ofRatio negative (digits * Nat.pow 10 exponent.toNat) (Nat.pow 10 (-exponent).toNat)

/-- The nearest double to an integer. -/
def ofInt (i : Int) : Double :=
  ofRatio (i < 0) i.natAbs 1

/-- Whether the number is neither infinite nor a not-a-number. -/
def isFinite (x : Double) : Bool :=
  match x.value with
  | .finite .. => true
  | _ => false

/-- The number with the other sign. -/
def neg (x : Double) : Double :=
  ⟨x.bits ^^^ 0x8000000000000000⟩

/-- The nearest double to the product of two finite numbers, with the sign of the first. -/
def scaleUp (x : Double) (factor : Nat) : Double :=
  match x.value with
  | .finite negative m e => ofScaled negative (m * factor) 1 e
  | _ => x

/-- The nearest double to the quotient of a finite number by a positive one. -/
def scaleDown (x : Double) (divisor : Nat) : Double :=
  match x.value with
  | .finite negative m e => ofScaled negative m divisor e
  | _ => x

/-- The integer that the number equals, if it is one. -/
def toInt? (x : Double) : Option Int :=
  match x.value with
  | .finite negative m e =>
    let whole : Option Nat :=
      if 0 ≤ e then some (m * Nat.pow 2 e.toNat)
      else if m % Nat.pow 2 (-e).toNat = 0 then some (m / Nat.pow 2 (-e).toNat) else none
    whole.map fun n => if negative then -(n : Int) else n
  | _ => none

/-- Whether two numbers are equal as numbers; both zeros are, and a not-a-number equals nothing. -/
def numericEq (x y : Double) : Bool :=
  match x.value, y.value with
  | .finite _ 0 _, .finite _ 0 _ => true
  | .nan, _ => false
  | _, _ => x == y

/-- Round to single precision. -/
def toSingle (x : Double) : Single :=
  ⟨UInt32.ofNat (BinaryFormat.double.convert BinaryFormat.single x.bits.toNat)⟩

/-- The text of the number in a style. -/
def render (style : DecimalStyle) (x : Double) : String :=
  BinaryFormat.double.render style x.bits.toNat

end Double

namespace Single

/-- The value that the bits stand for. -/
def value (x : Single) : BinaryValue :=
  BinaryFormat.single.decode x.bits.toNat

/-- The nearest single to an integer. -/
def ofInt (i : Int) : Single :=
  ⟨UInt32.ofNat (BinaryFormat.single.encode (i < 0) i.natAbs 1 0)⟩

/-- The same number in double precision. -/
def toDouble (x : Single) : Double :=
  ⟨UInt64.ofNat (BinaryFormat.single.convert BinaryFormat.double x.bits.toNat)⟩

/-- The text of the number in a style. -/
def render (style : DecimalStyle) (x : Single) : String :=
  BinaryFormat.single.render style x.bits.toNat

/-- Whether the number lies between two naturals, ends included. -/
def between (low high : Nat) (x : Single) : Bool :=
  match x.value with
  | .finite negative m e =>
    let (n, d) := BinaryFormat.unscale m 1 (-e)
    if negative then m == 0 && low == 0 else decide (low * d ≤ n) && decide (n ≤ high * d)
  | _ => false

end Single

end Colloquy
