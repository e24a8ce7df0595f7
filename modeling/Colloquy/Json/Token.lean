import Colloquy.Json.Problem

/-! # Tokens of JSON text

Reading of blanks, literal words, strings and numbers from the front of a list of characters.  A
reader returns what it read together with the rest, or a fault. -/

namespace Colloquy.Json

/-- The four characters that may stand between tokens. -/
def isSpace (c : Char) : Bool :=
  c = ' ' || c = '\n' || c = '\t' || c = '\r'

/-- Drop blanks. -/
def skipSpace (s : List Char) : List Char :=
  s.dropWhile isSpace

/-- Whether a character is a decimal digit. -/
def isDigit (c : Char) : Bool :=
  '0' ≤ c && c ≤ '9'

/-- The value of a decimal digit. -/
def digitValue (c : Char) : Nat := c.toNat - 48

/-- The value of a hexadecimal digit. -/
def hexValue? (c : Char) : Option Nat :=
  if isDigit c then some (c.toNat - 48)
  else if 'a' ≤ c && c ≤ 'f' then some (c.toNat - 87)
  else if 'A' ≤ c && c ≤ 'F' then some (c.toNat - 55)
  else none

/-- Read the rest of a literal word. -/
def readWord : List Char → List Char → Except Fault (List Char)
  | [], s => .ok s
  | _ :: _, [] => .error (.here .endInValue [])
  | w :: ws, c :: s => if c = w then readWord ws s else .error (.next .expectedLiteral (c :: s))

/-! ### Strings -/

/-- Whether a text has at least so many bytes. -/
def hasBytes : Nat → List Char → Bool
  | 0, _ => true
  | _ + 1, [] => false
  | n + 1, c :: s => hasBytes (n + 1 - c.utf8Size) s

/-- Read four hexadecimal digits. -/
def readHex (s : List Char) : Except Fault (Nat × List Char) :=
  match s with
  | a :: b :: c :: d :: rest =>
    match hexValue? a, hexValue? b, hexValue? c, hexValue? d with
    | some a, some b, some c, some d => .ok (((a * 16 + b) * 16 + c) * 16 + d, rest)
    | _, _, _, _ => .error ⟨.malformed .invalidEscape, s, 4, true⟩
  | _ =>
    if hasBytes 4 s then .error ⟨.malformed .invalidEscape, s, 4, true⟩
    else .error (.here .endInString [])

/-- The character of an escape of one letter. -/
def shortEscape? (c : Char) : Option Char :=
  if c = '"' then some '"'
  else if c = '\\' then some '\\'
  else if c = '/' then some '/'
  else if c = 'b' then some '\x08'
  else if c = 'f' then some '\x0C'
  else if c = 'n' then some '\n'
  else if c = 'r' then some '\r'
  else if c = 't' then some '\t'
  else none

/-- Read the second half of a surrogate pair, the first being `high`. -/
def readLowSurrogate (high : Nat) (s : List Char) : Except Fault (Char × List Char) :=
  match s with
  | [] => .error (.here .endInString [])
  | c :: s₁ =>
    if c ≠ '\\' then .error (.next .endInSurrogate s)
    else
      match s₁ with
      | [] => .error (.here .endInString [])
      | u :: s₂ =>
        if u ≠ 'u' then .error (.next .endInSurrogate s₁)
        else do
          let (low, rest) ← readHex s₂
          if low < 0xDC00 || 0xDFFF < low then .error (.here .loneSurrogate rest)
          else .ok (Char.ofNat ((high - 0xD800) * 0x400 + (low - 0xDC00) + 0x10000), rest)

/-- Read an escape after its backslash. -/
def readEscape (s : List Char) : Except Fault (Char × List Char) :=
  match s with
  | [] => .error (.here .endInString [])
  | c :: rest =>
    if c = 'u' then do
      let (n, rest) ← readHex rest
      if 0xDC00 ≤ n && n ≤ 0xDFFF then .error (.here .loneSurrogate rest)
      else if 0xD800 ≤ n && n ≤ 0xDBFF then readLowSurrogate n rest
      else .ok (Char.ofNat n, rest)
    else
      match shortEscape? c with
      | some d => .ok (d, rest)
      | none => .error (.next .invalidEscape s)

/-- Read a string after its opening quote; each step takes at least one of `fuel` characters. -/
def readStringFrom : Nat → List Char → List Char → Except Fault (String × List Char)
  | 0, _, s => .error (.here .endInString s)
  | _ + 1, _, [] => .error (.here .endInString [])
  | fuel + 1, read, c :: s =>
    if c = '"' then .ok (String.ofList read.reverse, s)
    else if c = '\\' then do
      let (d, rest) ← readEscape s
      readStringFrom fuel (d :: read) rest
    else if c.toNat < 0x20 then .error (.next .controlCharacter (c :: s))
    else readStringFrom fuel (c :: read) s

/-- Read a string after its opening quote. -/
def readString (s : List Char) : Except Fault (String × List Char) :=
  readStringFrom (s.length + 1) [] s

/-- Pass over a string after its opening quote; surrogates may stand alone here. -/
def skipString : List Char → Except Fault (List Char)
  | [] => .error (.here .endInString [])
  | c :: s =>
    if c = '"' then .ok s
    else if c = '\\' then
      match s with
      | [] => .error (.here .endInString [])
      | d :: rest =>
        if d = 'u' then
          -- The digits are ordinary characters, so it is enough to look at them.
          match readHex rest with
          | .ok _ => skipString rest
          | .error fault => .error fault
        else if (shortEscape? d).isSome then skipString rest
        else .error (.next .invalidEscape (d :: rest))
    else if c.toNat < 0x20 then .error (.here .controlCharacter (c :: s))
    else skipString s

/-! ### Numbers -/

/-- The nearest double to a power of ten, as a natural. -/
def roundedPower (k : Nat) : Nat :=
  ((Double.ofDecimal false 1 k).toInt?.getD 0).toNat

/-- Scale by a power of ten in steps that doubles can hold; `none` when the result is too large. -/
def scaleByTen : Nat → Double → Int → Option Double
  | 0, x, _ => some x
  | fuel + 1, x, e =>
    if e.natAbs ≤ 308 then
      if 0 ≤ e then
        let y := x.scaleUp (roundedPower e.toNat)
        if y.isFinite then some y else none
      else some (x.scaleDown (roundedPower e.natAbs))
    else if x.numericEq ⟨0⟩ then some x
    else if 0 ≤ e then none
    else scaleByTen fuel (x.scaleDown (roundedPower 308)) (e + 308)

/-- The number `±significand · 10 ^ exponent`: the significand is rounded to a double first and then
scaled, so long texts need not give the nearest double. -/
def decimalNumber (positive : Bool) (significand : Nat) (exponent : Int) (rest : List Char) :
    Except Fault (JsonNumber × List Char) :=
  match scaleByTen 5 (Double.ofRatio false significand 1) exponent with
  | some x => .ok (.float (if positive then x else x.neg), rest)
  | none => .error (.here .numberOutOfRange rest)

/-- Append digits to a significand while it fits 64 bits; also the digits left over. -/
def appendDigits : Nat → List Char → Nat × List Char
  | n, [] => (n, [])
  | n, c :: digits =>
    if n * 10 + digitValue c < 2 ^ 64 then appendDigits (n * 10 + digitValue c) digits
    else (n, c :: digits)

/-- Read digits that are known to be there, up to 32 bits of signed value. -/
def readExponentDigits : Nat → List Char → Option Nat
  | n, [] => some n
  | n, c :: digits =>
    if n * 10 + digitValue c < 2 ^ 31 then readExponentDigits (n * 10 + digitValue c) digits
    else none

/-- Read an exponent after its letter. -/
def readExponent (positive : Bool) (significand : Nat) (exponent : Int) (s : List Char) :
    Except Fault (JsonNumber × List Char) :=
  let (up, s) := match s with
    | c :: rest => if c = '+' then (true, rest) else if c = '-' then (false, rest) else (true, s)
    | [] => (true, s)
  match s with
  | [] => .error (.here .endInValue [])
  | c :: rest =>
    if isDigit c then
      let digits := rest.takeWhile isDigit
      let rest := rest.dropWhile isDigit
      match readExponentDigits (digitValue c) digits with
      | some n =>
        decimalNumber positive significand (if up then exponent + n else exponent - n) rest
      | none =>
        if up && significand ≠ 0 then
          -- The scan stops at the digit that no longer fits.
          .error (.here .numberOutOfRange (dropFitting (digitValue c) (digits ++ rest)))
        else .ok (.float (if positive then ⟨0⟩ else Double.neg ⟨0⟩), rest)
    else .error (.next .invalidNumber s)
where
  /-- What is left after the exponent's first digit that does not fit. -/
  dropFitting : Nat → List Char → List Char
    | _, [] => []
    | n, c :: s =>
      if n * 10 + digitValue c < 2 ^ 31 then dropFitting (n * 10 + digitValue c) s else s

/-- Read a fraction after its point. -/
def readFraction (positive : Bool) (significand : Nat) (exponent : Int) (s : List Char) :
    Except Fault (JsonNumber × List Char) :=
  let digits := s.takeWhile isDigit
  let rest := s.dropWhile isDigit
  let (significand, unread) := appendDigits significand digits
  let exponent := exponent - (digits.length - unread.length : Nat)
  if digits.isEmpty then
    match rest with
    | [] => .error (.here .endInValue [])
    | _ :: _ => .error (.next .invalidNumber rest)
  else
    match rest with
    | c :: s =>
      if c = 'e' || c = 'E' then readExponent positive significand exponent s
      else decimalNumber positive significand exponent rest
    | [] => decimalNumber positive significand exponent rest

/-- The integer `±significand`; minus zero is a double. -/
def wholeNumber (positive : Bool) (significand : Nat) : JsonNumber :=
  match JsonInt.ofInt? (if positive then significand else -significand) with
  | some i =>
    if positive || significand ≠ 0 then .int i else .float (Double.neg ⟨0⟩)
  | none => .float (Double.ofRatio (!positive) significand 1)

/-- Read a number after its sign. -/
def readNumber (positive : Bool) (s : List Char) : Except Fault (JsonNumber × List Char) :=
  match s with
  | [] => .error (.here .endInValue [])
  | c :: rest =>
    if !isDigit c then .error (.next .invalidNumber s)
    else
      let digits := if c = '0' then [] else rest.takeWhile isDigit
      let rest := if c = '0' then rest else rest.dropWhile isDigit
      let (significand, unread) := appendDigits (digitValue c) digits
      match rest with
      | [] =>
        if unread.isEmpty then .ok (wholeNumber positive significand, rest)
        else decimalNumber positive significand unread.length rest
      | d :: s =>
        if c = '0' && isDigit d then .error (.next .invalidNumber rest)
        else if d = '.' then readFraction positive significand unread.length s
        else if d = 'e' || d = 'E' then readExponent positive significand unread.length s
        else if unread.isEmpty then .ok (wholeNumber positive significand, rest)
        else decimalNumber positive significand unread.length rest

/-- Pass over an exponent after its letter. -/
def skipExponent (s : List Char) : Except Fault (List Char) :=
  let s := match s with
    | c :: rest => if c = '+' || c = '-' then rest else s
    | [] => s
  match s with
  | [] => .error (.here .invalidNumber [])
  | c :: rest =>
    if isDigit c then .ok (rest.dropWhile isDigit) else .error (.next .invalidNumber s)

/-- Pass over an exponent, if one follows. -/
def skipExponentPart (s : List Char) : Except Fault (List Char) :=
  match s with
  | c :: rest => if c = 'e' || c = 'E' then skipExponent rest else .ok s
  | [] => .ok s

/-- Pass over a fraction and an exponent, where they follow. -/
def skipFractionPart (s : List Char) : Except Fault (List Char) :=
  match s with
  | c :: rest =>
    if c = '.' then
      match rest with
      | [] => .error (.here .invalidNumber [])
      | d :: more =>
        if isDigit d then skipExponentPart (more.dropWhile isDigit)
        else .error (.next .invalidNumber rest)
    else skipExponentPart s
  | [] => .ok s

/-- Pass over a number after its sign. -/
def skipNumber (s : List Char) : Except Fault (List Char) :=
  match s with
  | [] => .error (.here .invalidNumber [])
  | c :: rest =>
    if c = '0' then
      match rest with
      | d :: _ =>
        if isDigit d then .error (.next .invalidNumber rest) else skipFractionPart rest
      | [] => .ok []
    else if isDigit c then skipFractionPart (rest.dropWhile isDigit)
    else .error (.next .invalidNumber s)

end Colloquy.Json
