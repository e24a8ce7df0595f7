/-! # Binary floating-point formats

A format is a precision and an exponent width.  Its bit patterns decode to exact values `significand
· 2 ^ exponent`, and `roundRatio` is the nearest pattern to a quotient of naturals, ties going to
the even significand.  Every operation on floating-point numbers in this library is exact arithmetic
on naturals followed by one such rounding. -/

namespace Colloquy

/-- A binary interchange format. -/
structure BinaryFormat where
  /-- Number of significant bits, the leading one included. -/
  precision : Nat
  /-- Width of the exponent field. -/
  exponentBits : Nat
deriving DecidableEq, Repr

/-- The value of a bit pattern. -/
inductive BinaryValue where
  /-- The number `±significand · 2 ^ exponent`. -/
  | finite (negative : Bool) (significand : Nat) (exponent : Int)
  /-- An infinity. -/
  | infinite (negative : Bool)
  /-- No number. -/
  | nan
deriving DecidableEq, Repr

/-- Integer division to the nearest, a tie going to the even quotient. -/
def roundDiv (num den : Nat) : Nat :=
  let q := num / den
  let r := num % den
  if 2 * r < den then q
  else if den < 2 * r then q + 1
  else if q % 2 = 0 then q else q + 1

namespace BinaryFormat

/-- Sixty-four bits, fifty-three of them significant. -/
def double : BinaryFormat := ⟨53, 11⟩

/-- Thirty-two bits, twenty-four of them significant. -/
def single : BinaryFormat := ⟨24, 8⟩

/-- Weight of the last bit of the smallest numbers. -/
def minExponent (f : BinaryFormat) : Int :=
  3 - (Nat.pow 2 (f.exponentBits - 1) : Nat) - f.precision

/-- The pattern of positive infinity; smaller patterns are the finite magnitudes in order. -/
def infinityBits (f : BinaryFormat) : Nat :=
  (Nat.pow 2 f.exponentBits - 1) * Nat.pow 2 (f.precision - 1)

/-- The sign bit, above all bits of the magnitude. -/
def signBit (f : BinaryFormat) : Nat :=
  Nat.pow 2 (f.exponentBits + f.precision - 1)

/-- The value that a bit pattern stands for. -/
def decode (f : BinaryFormat) (bits : Nat) : BinaryValue :=
  let negative := bits / f.signBit % 2 = 1
  let magnitude := bits % f.signBit
  if f.infinityBits < magnitude then .nan
  else if magnitude = f.infinityBits then .infinite negative
  else
    let field := magnitude / Nat.pow 2 (f.precision - 1)
    let fraction := magnitude % Nat.pow 2 (f.precision - 1)
    if field = 0 then .finite negative fraction f.minExponent
    else
      .finite negative (fraction + Nat.pow 2 (f.precision - 1))
        (f.minExponent + (field - 1 : Nat))

/-- The ratio `num / den · 2 ^ (-e)` as a pair of naturals. -/
def unscale (num den : Nat) (e : Int) : Nat × Nat :=
  if 0 ≤ e then (num, den * Nat.pow 2 e.toNat) else (num * Nat.pow 2 (-e).toNat, den)

/-- The pattern of the magnitude nearest to `num / den`.  The exponent is taken so that the quotient
has at most `precision` bits; patterns of consecutive magnitudes are consecutive numbers, so a
quotient that rounds up to the next power of two needs no case of its own. -/
def roundRatio (f : BinaryFormat) (num den : Nat) : Nat :=
  if num = 0 then 0
  else
    let guess : Int := max f.minExponent ((num.log2 : Int) - den.log2 - f.precision)
    let fits := (unscale num den guess).1 < Nat.pow 2 f.precision * (unscale num den guess).2
    let e := if fits then guess else guess + 1
    let (n, d) := unscale num den e
    let bits := (e - f.minExponent).toNat * Nat.pow 2 (f.precision - 1) + roundDiv n d
    min bits f.infinityBits

/-- The pattern of `±num / den · 2 ^ e`, rounded to the nearest. -/
def encode (f : BinaryFormat) (negative : Bool) (num den : Nat) (e : Int) : Nat :=
  let (n, d) := unscale num den (-e)
  f.roundRatio n d + (if negative then f.signBit else 0)

/-- The pattern of a not-a-number. -/
def nanBits (f : BinaryFormat) : Nat :=
  f.infinityBits + Nat.pow 2 (f.precision - 2)

/-- Carry a pattern over to another format, rounding where that is narrower. -/
def convert (f g : BinaryFormat) (bits : Nat) : Nat :=
  match f.decode bits with
  | .finite negative m e => g.encode negative m 1 e
  | .infinite negative => g.infinityBits + (if negative then g.signBit else 0)
  | .nan => g.nanBits

end BinaryFormat

end Colloquy
