import Colloquy.Toml.Token

/-! # Numbers and dates of a TOML document

Whole numbers fit 64 bits with a sign; in four bases, with underscores between digits.  Other
numbers are rounded once to the nearest double.  Dates and times are checked for their ranges and
kept as text in one form. -/

namespace Colloquy.Toml

/-! ### Digits -/

/-- The digits after the first one; an underscore stands between two digits. -/
def moreDigits (isDigit : Char → Bool) : Reader (List Char)
  | [] => some ([], [])
  | '_' :: c :: rest =>
    if isDigit c then (moreDigits isDigit rest).map fun r => (c :: r.1, r.2) else none
  | c :: rest =>
    if isDigit c then (moreDigits isDigit rest).map fun r => (c :: r.1, r.2)
    else if c = '_' then none
    else some ([], c :: rest)

/-- Digits, at least one. -/
def digits (isDigit : Char → Bool) : Reader (List Char)
  | [] => none
  | c :: rest =>
    if isDigit c then (moreDigits isDigit rest).map fun r => (c :: r.1, r.2) else none

/-- The number that digits stand for in a base. -/
def digitsValue (base : Nat) (s : List Char) : Nat :=
  s.foldl (fun n c => n * base + (Json.hexValue? c).getD 0) 0

/-- Whether a character is a digit in a base. -/
def isDigitIn (base : Nat) (c : Char) : Bool :=
  match Json.hexValue? c with
  | some d => d < base
  | none => false

/-! ### Numbers -/

/-- A whole number, if it fits 64 bits with a sign. -/
def whole? (i : Int) : Option Json :=
  if h : -9223372036854775808 ≤ i ∧ i < 9223372036854775808 then
    some (.num (.int ⟨i, h.1, by omega⟩))
  else none

/-- The double nearest to `±digits · 10 ^ exponent`; digits far beyond the range of doubles are not
multiplied out. -/
def nearest (negative : Bool) (digits : List Char) (exponent : Int) : Double :=
  let n := digitsValue 10 digits
  let e : Int := if n = 0 then 0 else max (-400 - (digits.length : Int)) (min 400 exponent)
  .ofDecimal negative n e

/-- A number that is not whole.  One that is too large is refused, one that is too small in the
negative is minus infinity. -/
def real? (negative : Bool) (digits : List Char) (exponent : Int) : Option Json :=
  let x := nearest negative digits exponent
  if x.isFinite || negative then some (.num (.float x)) else none

/-- An exponent, after its letter. -/
def exponent : Reader Int := fun s => do
  let (negative, s) := match s with
    | '-' :: rest => (true, rest)
    | '+' :: rest => (false, rest)
    | s => (false, s)
  let (ds, s) ← digits (isDigitIn 10) s
  let n : Int := digitsValue 10 ds
  some (if negative then -n else n, s)

/-- The exponent of a number, if it has one. -/
def exponent? : List Char → Option (Option Int × List Char)
  | [] => some (none, [])
  | c :: rest =>
    if c = 'e' || c = 'E' then (exponent rest).map fun r => (some r.1, r.2)
    else some (none, c :: rest)

/-- A number in base ten, after its sign; zero begins no other number. -/
def decimal (negative : Bool) : Reader Json := fun s => do
  let (ds, s) ← match s with
    | '0' :: rest => some (['0'], rest)
    | s => digits (isDigitIn 10) s
  match s with
  | '.' :: rest => do
    let (fraction, rest) ← digits (isDigitIn 10) rest
    let (e, rest) ← exponent? rest
    (real? negative (ds ++ fraction) (e.getD 0 - fraction.length)).map fun v => (v, rest)
  | s => do
    let (e, rest) ← exponent? s
    let n : Int := digitsValue 10 ds
    let v := match e with
      | some e => real? negative ds e
      | none => whole? (if negative then -n else n)
    v.map fun v => (v, rest)

/-- An infinity. -/
def infinite (negative : Bool) : Json :=
  .num (.float ⟨UInt64.ofNat (BinaryFormat.double.infinityBits +
    if negative then BinaryFormat.double.signBit else 0)⟩)

/-- A not-a-number. -/
def notANumber : Json := .num (.float ⟨UInt64.ofNat BinaryFormat.double.nanBits⟩)

/-- A number after its sign. -/
def signed (negative : Bool) : Reader Json
  | 'i' :: 'n' :: 'f' :: rest => some (infinite negative, rest)
  | 'n' :: 'a' :: 'n' :: rest => some (notANumber, rest)
  | s => decimal negative s

/-- A whole number in a base, after its letter. -/
def based (base : Nat) : Reader Json := fun s => do
  let (ds, rest) ← digits (isDigitIn base) s
  (whole? (digitsValue base ds)).map fun v => (v, rest)

/-- A number. -/
def number : Reader Json
  | '+' :: rest => signed false rest
  | '-' :: rest => signed true rest
  | '0' :: 'x' :: rest => based 16 rest
  | '0' :: 'o' :: rest => based 8 rest
  | '0' :: 'b' :: rest => based 2 rest
  | s => signed false s

/-! ### Dates and times -/

/-- So many digits, as a number in a range. -/
def field (count low high : Nat) : Reader Nat := fun s =>
  let ds := s.take count
  let n := digitsValue 10 ds
  if ds.length = count ∧ ds.all (isDigitIn 10) ∧ low ≤ n ∧ n ≤ high then some (n, s.drop count)
  else none

/-- Pass over a character. -/
def expect (c : Char) : List Char → Option (List Char)
  | d :: rest => if d = c then some rest else none
  | [] => none

/-- A number in so many digits. -/
def padded (count n : Nat) : String :=
  let text := toString n
  "".pushn '0' (count - text.length) ++ text

/-- The number of days of a month. -/
def daysIn (year month : Nat) : Nat :=
  if month = 2 then
    if year % 4 = 0 ∧ (year % 100 ≠ 0 ∨ year % 400 = 0) then 29 else 28
  else if month = 4 ∨ month = 6 ∨ month = 9 ∨ month = 11 then 30
  else 31

/-- A date. -/
def date : Reader String := fun s => do
  let (year, s) ← field 4 0 9999 s
  let (month, s) ← field 2 1 12 (← expect '-' s)
  let (day, s) ← field 2 1 (daysIn year month) (← expect '-' s)
  some (padded 4 year ++ "-" ++ padded 2 month ++ "-" ++ padded 2 day, s)

/-- The fraction of a second, to nine digits, without the zeros at its end. -/
def fraction : List Char → String × List Char
  | '.' :: rest =>
    match rest.takeWhile (isDigitIn 10) with
    | [] => ("", '.' :: rest)
    | ds =>
      let kept := ((ds.take 9).reverse.dropWhile (· = '0')).reverse
      (if kept.isEmpty then "" else "." ++ String.ofList kept, rest.drop ds.length)
  | s => ("", s)

/-- A time of day. -/
def time : Reader String := fun s => do
  let (hour, s) ← field 2 0 23 s
  let (minute, s) ← field 2 0 59 (← expect ':' s)
  let (second, s) ← field 2 0 60 (← expect ':' s)
  let (part, s) := fraction s
  some (padded 2 hour ++ ":" ++ padded 2 minute ++ ":" ++ padded 2 second ++ part, s)

/-- The distance from universal time, if there is one. -/
def offset? : List Char → Option (String × List Char)
  | [] => some ("", [])
  | c :: rest =>
    if c = 'Z' || c = 'z' then some ("Z", rest)
    else if c = '+' || c = '-' then do
      let (hour, s) ← field 2 0 23 rest
      let (minute, s) ← field 2 0 59 (← expect ':' s)
      let sign := if c = '-' ∧ 0 < hour + minute then "-" else "+"
      some (sign ++ padded 2 hour ++ ":" ++ padded 2 minute, s)
    else some ("", c :: rest)

/-- Whether a time of day begins here. -/
def beginsTime : List Char → Bool
  | a :: b :: ':' :: _ => isDigitIn 10 a && isDigitIn 10 b
  | _ => false

/-- Whether a date begins here. -/
def beginsDate (s : List Char) : Bool :=
  (s.take 4).all (isDigitIn 10) && (s.drop 4).head? == some '-'

/-- A date, a time of day, or both. -/
def moment : Reader String := fun s =>
  if beginsTime s then time s
  else do
    let (day, s) ← date s
    match s with
    | c :: rest =>
      if (c = 'T' || c = 't' || c = ' ') && beginsTime rest then do
        let (clock, rest) ← time rest
        let (zone, rest) ← offset? rest
        some (day ++ "T" ++ clock ++ zone, rest)
      else some (day, c :: rest)
    | [] => some (day, [])

/-- The name under which a date or time is the only member of an object. -/
def momentName : String := "$__toml_private_datetime"

/-- A date or time, or a number. -/
def dateOrNumber : Reader Json := fun s =>
  if beginsTime s || beginsDate s then
    (moment s).map fun r => (.obj [(momentName, .str r.1)], r.2)
  else number s

end Colloquy.Toml
