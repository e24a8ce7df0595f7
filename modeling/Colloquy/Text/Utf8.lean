/-! # UTF-8

Decoding of bytes to characters.  `take` reads one character from the front of the bytes or says
what is wrong there; `decode?` reads all of them and reports the first fault with its offset, and
`decodeLossy` puts the replacement character for every fault. -/

namespace Colloquy.Utf8

/-- What is wrong at some place of a byte sequence. -/
inductive Fault where
  /-- The next `length` bytes begin no character. -/
  | invalid (length : Nat)
  /-- The bytes end within a character. -/
  | incomplete
deriving DecidableEq, Repr

/-- The bytes of a text. -/
def encode (s : List Char) : List UInt8 :=
  s.flatMap String.utf8EncodeChar

/-- Whether a byte continues a character, its value lying in the given range. -/
def continues (low high : UInt8) (b : UInt8) : Bool :=
  low ≤ b && b ≤ high

/-- The six bits that a continuation byte carries. -/
def payload (b : UInt8) : Nat :=
  b.toNat % 64

/-- The range of the second byte after a leading byte: it leaves out overlong forms, surrogates and
what lies beyond the last code point. -/
def secondByte (lead : UInt8) : UInt8 × UInt8 :=
  if lead = 0xE0 then (0xA0, 0xBF)
  else if lead = 0xED then (0x80, 0x9F)
  else if lead = 0xF0 then (0x90, 0xBF)
  else if lead = 0xF4 then (0x80, 0x8F)
  else (0x80, 0xBF)

/-- Check the continuation bytes of a character, the first against its own range.  `seen` counts the
bytes of the character that are already known to be good. -/
def continuation : Nat → Nat → UInt8 × UInt8 → Nat → List UInt8 → Except Fault (Nat × List UInt8)
  | 0, _, _, value, bytes => .ok (value, bytes)
  | _ + 1, _, _, _, [] => .error .incomplete
  | n + 1, seen, (low, high), value, b :: bytes =>
    if continues low high b then
      continuation n (seen + 1) (0x80, 0xBF) (value * 64 + payload b) bytes
    else .error (.invalid seen)

/-- Read one character after its leading byte. -/
def takeAfter (lead : UInt8) (bytes : List UInt8) : Except Fault (Char × List UInt8) :=
  if lead < 0x80 then .ok (Char.ofNat lead.toNat, bytes)
  else if lead < 0xC2 then .error (.invalid 1)
  else if lead < 0xE0 then
    (continuation 1 1 (secondByte lead) (lead.toNat % 32) bytes).map fun r => (Char.ofNat r.1, r.2)
  else if lead < 0xF0 then
    (continuation 2 1 (secondByte lead) (lead.toNat % 16) bytes).map fun r => (Char.ofNat r.1, r.2)
  else if lead < 0xF5 then
    (continuation 3 1 (secondByte lead) (lead.toNat % 8) bytes).map fun r => (Char.ofNat r.1, r.2)
  else .error (.invalid 1)

/-- A decoding failure: the fault and the number of good bytes before it. -/
structure Error where
  /-- What is wrong. -/
  fault : Fault
  /-- Offset of the fault. -/
  offset : Nat
deriving DecidableEq, Repr

namespace Error

/-- The wording of a decoding failure. -/
def message (e : Error) : String :=
  match e.fault with
  | .invalid n => s!"invalid utf-8 sequence of {n} bytes from index {e.offset}"
  | .incomplete => s!"incomplete utf-8 byte sequence from index {e.offset}"

end Error

/-- Decode at most `fuel` characters, `offset` bytes having been read before. -/
def decodeFrom : Nat → Nat → List UInt8 → Except Error (List Char)
  | _, _, [] => .ok []
  | 0, offset, _ :: _ => .error ⟨.incomplete, offset⟩
  | fuel + 1, offset, b :: bytes =>
    match takeAfter b bytes with
    | .error fault => .error ⟨fault, offset⟩
    | .ok (c, rest) => (decodeFrom fuel (offset + c.utf8Size) rest).map (c :: ·)

/-- Decode all bytes, or report the first fault. -/
def decode? (bytes : List UInt8) : Except Error (List Char) :=
  decodeFrom bytes.length 0 bytes

/-- Decode at most `fuel` characters, every fault giving `mark`. -/
def decodeMarkingFrom (mark : List Char) : Nat → List UInt8 → List Char
  | _, [] => []
  | 0, _ :: _ => []
  | fuel + 1, b :: bytes =>
    match takeAfter b bytes with
    | .ok (c, rest) => c :: decodeMarkingFrom mark fuel rest
    | .error .incomplete => mark
    | .error (.invalid n) => mark ++ decodeMarkingFrom mark fuel ((b :: bytes).drop n)

/-- Decode all bytes, every fault giving `mark`. -/
def decodeMarking (mark : List Char) (bytes : List UInt8) : List Char :=
  decodeMarkingFrom mark bytes.length bytes

/-- Decode all bytes, every fault giving one replacement character. -/
def decodeLossy (bytes : List UInt8) : List Char := decodeMarking ['\uFFFD'] bytes

end Colloquy.Utf8
