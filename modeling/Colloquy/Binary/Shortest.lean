import Colloquy.Binary.Format

/-! # Shortest decimals

`BinaryFormat.shortest` finds, for a positive value of a binary format, the decimal with the fewest
digits among those that round to the value, and of these the nearest.  Everything is exact
arithmetic: a decimal reads back when it lies in the interval of reals that round to the value, ends
included when the significand is even.  `DecimalStyle` says how such digits are laid out. -/

namespace Colloquy

/-- The positive number `digits · 10 ^ exponent`. -/
structure Decimal where
  /-- All digits as one number. -/
  digits : Nat
  /-- Power of ten of the last digit. -/
  exponent : Int
deriving DecidableEq, Repr

namespace BinaryFormat

/-- The point of the grid of step `10 ^ k` that reads back as `m · 2 ^ e` and lies nearest to it, if
there is one.  The interval is measured in quarters of the last bit; below a power of two the
neighbour is half as far away. -/
def onGrid (f : BinaryFormat) (m : Nat) (e k : Int) : Option Nat :=
  let lower := if m = Nat.pow 2 (f.precision - 1) ∧ f.minExponent < e then 4 * m - 1 else 4 * m - 2
  let upper := 4 * m + 2
  -- `unit` quarters of the last bit, and `step` is the grid's step in the same measure.
  let unit := Nat.pow 2 (e - 2).toNat * Nat.pow 10 (-k).toNat
  let step := Nat.pow 2 (2 - e).toNat * Nat.pow 10 k.toNat
  let inside (d : Nat) : Bool :=
    if m % 2 = 0 then lower * unit ≤ d * step && d * step ≤ upper * unit
    else lower * unit < d * step && d * step < upper * unit
  let below := 4 * m * unit / step
  let rest := 4 * m * unit % step
  match inside below, inside (below + 1) with
  | true, true =>
    if 2 * rest < step then some below
    else if step < 2 * rest then some (below + 1)
    else if below % 2 = 0 then some below else some (below + 1)
  | true, false => some below
  | false, true => some (below + 1)
  | false, false => none

/-- Search ever finer grids, at most `fuel` of them. -/
def shortestFrom (f : BinaryFormat) (m : Nat) (e : Int) : Nat → Int → Decimal
  | 0, k => ⟨0, k⟩
  | fuel + 1, k =>
    match f.onGrid m e k with
    | some d => ⟨d, k⟩
    | none => f.shortestFrom m e fuel (k - 1)

/-- The shortest decimal that reads back as `m · 2 ^ e`, for positive `m`.  The search starts above
the leading digit, and seventeen digits always suffice. -/
def shortest (f : BinaryFormat) (m : Nat) (e : Int) : Decimal :=
  f.shortestFrom m e 22 (((m.log2 : Int) + e) * 30103 / 100000 + 1)

end BinaryFormat

/-- How the digits of a number are laid out. -/
structure DecimalStyle where
  /-- The least decimal exponent written without an exponent. -/
  lowest : Int
  /-- The greatest decimal exponent written without an exponent. -/
  highest : Int
  /-- Whether a positive exponent has its sign. -/
  plus : Bool
  /-- Whether a whole number written without an exponent ends in `.0`. -/
  point : Bool
deriving DecidableEq, Repr

namespace Decimal

/-- Lay out the digits: positionally within the style's range of exponents, otherwise with one digit
before the point. -/
def render (style : DecimalStyle) (d : Decimal) : String :=
  let text := toString d.digits
  let scale : Int := text.length - 1 + d.exponent
  if style.lowest ≤ scale ∧ scale ≤ style.highest then
    if 0 ≤ d.exponent then
      text ++ "".pushn '0' d.exponent.toNat ++ (if style.point then ".0" else "")
    else if 0 ≤ scale then
      let whole := (scale + 1).toNat
      String.ofList (text.toList.take whole) ++ "." ++ String.ofList (text.toList.drop whole)
    else
      "0." ++ "".pushn '0' (-scale - 1).toNat ++ text
  else
    let tail := text.toList.drop 1
    let mantissa := String.ofList (text.toList.take 1) ++
      (if tail.isEmpty then "" else "." ++ String.ofList tail)
    mantissa ++ "e" ++ (if scale < 0 then "-" else if style.plus then "+" else "") ++
      toString scale.natAbs

end Decimal

namespace BinaryFormat

/-- The text of a bit pattern in a style. -/
def render (f : BinaryFormat) (style : DecimalStyle) (bits : Nat) : String :=
  match f.decode bits with
  | .nan => "NaN"
  | .infinite negative => if negative then "-inf" else "inf"
  | .finite negative m e =>
    let sign := if negative then "-" else ""
    if m = 0 then sign ++ (if style.point then "0.0" else "0")
    else sign ++ (f.shortest m e).render style

end BinaryFormat

end Colloquy
