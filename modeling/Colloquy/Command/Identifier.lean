import Colloquy.Json.Print

/-! # Identifiers

Identifiers of 128 random bits, in groups of hexadecimal digits. -/

namespace Colloquy.Command

/-- Two hexadecimal digits. -/
def byteDigits (b : UInt8) : List Char :=
  [Json.hexDigit (b.toNat / 16), Json.hexDigit (b.toNat % 16)]

/-- Sixteen bytes as an identifier.  The upper half of the seventh byte and the upper two bits of
the ninth say that the rest is random. -/
def identifier (random : List UInt8) : String :=
  let mark (i : Nat) (b : UInt8) : UInt8 :=
    if i = 6 then b &&& 0x0F ||| 0x40 else if i = 8 then b &&& 0x3F ||| 0x80 else b
  let digits := (random.zipIdx.map fun e => mark e.2 e.1).flatMap byteDigits
  let group (start count : Nat) := String.ofList ((digits.drop start).take count)
  String.intercalate "-" [group 0 8, group 8 4, group 12 4, group 16 4, group 20 12]

end Colloquy.Command
