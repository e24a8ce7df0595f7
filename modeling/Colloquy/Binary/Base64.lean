/-! # Base 64

Bytes as text over sixty-four symbols, three bytes to four symbols, the last group filled up with
padding.  Decoding accepts exactly the texts that encoding writes: the padding has to be there, and
the bits that a short last group does not need have to be zero. -/

namespace Colloquy.Base64

/-- The symbol that fills up the last group. -/
def pad : UInt8 := 0x3D

/-- The symbol of a digit below sixty-four. -/
def symbol (n : Nat) : UInt8 :=
  if n < 26 then UInt8.ofNat (0x41 + n)
  else if n < 52 then UInt8.ofNat (0x61 + (n - 26))
  else if n < 62 then UInt8.ofNat (0x30 + (n - 52))
  else if n = 62 then 0x2B
  else 0x2F

/-- The digit of a symbol. -/
def digit? (b : UInt8) : Option Nat :=
  if 0x41 ≤ b ∧ b ≤ 0x5A then some (b.toNat - 0x41)
  else if 0x61 ≤ b ∧ b ≤ 0x7A then some (b.toNat - 0x61 + 26)
  else if 0x30 ≤ b ∧ b ≤ 0x39 then some (b.toNat - 0x30 + 52)
  else if b = 0x2B then some 62
  else if b = 0x2F then some 63
  else none

/-- The symbols of some bytes. -/
def encode : List UInt8 → List UInt8
  | [] => []
  | [a] => [symbol (a.toNat / 4), symbol (a.toNat % 4 * 16), pad, pad]
  | [a, b] =>
    [symbol (a.toNat / 4), symbol (a.toNat % 4 * 16 + b.toNat / 16), symbol (b.toNat % 16 * 4), pad]
  | a :: b :: c :: rest =>
    symbol (a.toNat / 4) :: symbol (a.toNat % 4 * 16 + b.toNat / 16) ::
      symbol (b.toNat % 16 * 4 + c.toNat / 64) :: symbol (c.toNat % 64) :: encode rest

/-- Why a text is no base 64. -/
inductive Fault where
  /-- A byte is no symbol, or padding stands where none may be. -/
  | symbol (byte : UInt8) (offset : Nat)
  /-- The text ends after a single symbol of a group. -/
  | length (length : Nat)
  /-- The last symbol has bits that stand for nothing. -/
  | lastSymbol (byte : UInt8) (offset : Nat)
  /-- The padding is incomplete. -/
  | padding
deriving DecidableEq, Repr

/-- The wording of a fault. -/
def Fault.message : Fault → String
  | symbol byte offset => s!"Invalid symbol {byte.toNat}, offset {offset}."
  | length n => s!"Invalid input length: {n}"
  | lastSymbol byte offset => s!"Invalid last symbol {byte.toNat}, offset {offset}."
  | padding => "Invalid padding"

/-- The digit of the symbol at an offset. -/
def digitAt (offset : Nat) (b : UInt8) : Except Fault Nat :=
  match digit? b with
  | some d => .ok d
  | none => .error (.symbol b offset)

/-- The three bytes of four digits. -/
def threeBytes (a b c d : Nat) : List UInt8 :=
  [UInt8.ofNat (a * 4 + b / 16), UInt8.ofNat (b % 16 * 16 + c / 4), UInt8.ofNat (c % 4 * 64 + d)]

/-- The digits of the last group from some place in it on, and the length of the padding after
them.  Padding may not take the first two places, and nothing may follow it. -/
def lastDigits (start : Nat) : Nat → List UInt8 → Except Fault (List Nat × Nat)
  | _, [] => .ok ([], 0)
  | i, b :: rest =>
    if b = pad then
      if 2 ≤ i ∧ rest.all (· = pad) then .ok ([], rest.length + 1)
      else .error (.symbol b (start + i))
    else do
      let d ← digitAt (start + i) b
      let (digits, padding) ← lastDigits start (i + 1) rest
      .ok (d :: digits, padding)

/-- The bytes of the last group's digits, unless bits are left over. -/
def lastBytes : List Nat → Option (List UInt8)
  | [a, b] => if b % 16 = 0 then some [UInt8.ofNat (a * 4 + b / 16)] else none
  | [a, b, c] =>
    if c % 4 = 0 then some [UInt8.ofNat (a * 4 + b / 16), UInt8.ofNat (b % 16 * 16 + c / 4)]
    else none
  | [a, b, c, d] => some (threeBytes a b c d)
  | _ => some []

/-- The bytes of the last group. -/
def decodeLast (start : Nat) (group : List UInt8) : Except Fault (List UInt8) := do
  let (digits, padding) ← lastDigits start 0 group
  if digits.length = 1 then .error (.length (start + 1))
  else if (digits.length + padding) % 4 ≠ 0 then .error .padding
  else
    match lastBytes digits with
    | some bytes => .ok bytes
    | none =>
      .error (.lastSymbol (group.getD (digits.length - 1) 0) (start + digits.length - 1))

/-- The bytes of a text from an offset on; only the last group may have padding. -/
def decodeFrom : Nat → List UInt8 → Except Fault (List UInt8)
  | start, a :: b :: c :: d :: e :: rest => do
    let a ← digitAt start a
    let b ← digitAt (start + 1) b
    let c ← digitAt (start + 2) c
    let d ← digitAt (start + 3) d
    let bytes ← decodeFrom (start + 4) (e :: rest)
    .ok (threeBytes a b c d ++ bytes)
  | start, group => decodeLast start group

/-- The bytes of a text.  A stray byte at the end of a text of odd length is reported first. -/
def decode (text : List UInt8) : Except Fault (List UInt8) :=
  match text.getLast? with
  | some b =>
    if text.length % 4 = 1 ∧ b ≠ pad ∧ digit? b = none then .error (.symbol b (text.length - 1))
    else decodeFrom 0 text
  | none => .ok []

end Colloquy.Base64
