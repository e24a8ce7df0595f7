import Colloquy.Proofs.Binary.Shortest
import Colloquy.Proofs.Json.RoundTrip
import Colloquy.Proofs.Toml.Strings

/-! # Numbers of a TOML document read back

A number is printed as digits, with a point among them if it is a double, and at the end of its line
these are read as what they stand for.  The digits of a double stand for its shortest decimal
(`Toml.exists_positional`), which is near enough that rounding finds the double again. -/

namespace Colloquy

open Json (isDigit)
open Nat (ofDigitChars)

namespace Toml

/-! ## Digits -/

/-- Whether characters are the digits of a whole number; zero begins no other number. -/
structure Whole (w : List Char) : Prop where
  /-- All characters are digits. -/
  digits : ∀ c ∈ w, isDigit c = true
  /-- There is one. -/
  nonempty : w ≠ []
  /-- A zero at the front is the only digit. -/
  leading : ∀ tail, w = '0' :: tail → tail = []

/-- Zero alone is written in digits. -/
theorem digits_zero : ∀ c ∈ ['0'], isDigit c = true :=
  List.forall_mem_singleton.mpr rfl

/-- The digits of a natural are those of a whole number. -/
theorem whole_toDigits (n : Nat) : Whole (Nat.toDigits 10 n) := by
  obtain ⟨c, digits, text, first, others⟩ := Json.exists_toDigits n
  refine ⟨?_, Nat.toDigits_ne_nil, fun tail zero => Json.eq_nil_of_toDigits zero⟩
  rw [text]
  exact List.forall_mem_cons.mpr ⟨first, others⟩

/-- The first digits of a whole number are those of a whole number. -/
theorem Whole.take {w : List Char} (whole : Whole w) {n : Nat} (positive : 0 < n) :
    Whole (w.take n) := by
  refine ⟨fun c hc => whole.digits c (List.mem_of_mem_take hc), ?_, fun tail zero => ?_⟩
  · rw [Ne, List.take_eq_nil_iff]
    have := whole.nonempty
    simp [this]
    omega
  · have front : w = '0' :: (tail ++ w.drop n) := by
      rw [← List.cons_append, ← zero, List.take_append_drop]
    exact (List.append_eq_nil_iff.mp (whole.leading _ front)).1

/-- Zeros may follow the digits of a positive number. -/
theorem whole_append_zeros {n : Nat} (positive : 0 < n) (k : Nat) :
    Whole (Nat.toDigits 10 n ++ List.replicate k '0') := by
  have whole := whole_toDigits n
  refine ⟨fun c hc => ?_, by simp [whole.nonempty], fun tail zero => ?_⟩
  · rcases List.mem_append.mp hc with hc | hc
    · exact whole.digits c hc
    · rw [List.eq_of_mem_replicate hc]
      rfl
  · obtain ⟨c, digits, text, -, -⟩ := Json.exists_toDigits n
    rw [text, List.cons_append] at zero
    obtain ⟨rfl, -⟩ := List.cons.inj zero
    -- A zero would be the whole number.
    rw [Json.eq_nil_of_toDigits text] at text
    have value := Nat.ofDigitChars_ten_toDigits (n := n)
    rw [text] at value
    exact absurd value positive.ne

/-- Decimal digits are digits in base ten. -/
theorem isDigitIn_ten {c : Char} (h : isDigit c = true) : isDigitIn 10 c = true := by
  have bounds : '0' ≤ c ∧ c ≤ '9' := by simpa [isDigit] using h
  have low : 48 ≤ c.toNat := bounds.1
  have high : c.toNat ≤ 57 := bounds.2
  simp [isDigitIn, Json.hexValue?, h]
  omega

/-- The digits of base ten stand for what they count. -/
theorem digitsValue_ten {ds : List Char} (all : ∀ c ∈ ds, isDigit c = true) :
    digitsValue 10 ds = ofDigitChars 10 ds 0 := by
  have from' : ∀ n, ds.foldl (fun n c => n * 10 + (Json.hexValue? c).getD 0) n =
      ofDigitChars 10 ds n := by
    induction ds with
    | nil => exact fun n => rfl
    | cons c ds ih =>
      intro n
      obtain ⟨digit, others⟩ := List.forall_mem_cons.mp all
      have value : (Json.hexValue? c).getD 0 = c.toNat - '0'.toNat := by simp [Json.hexValue?, digit]
      rw [List.foldl_cons, Nat.ofDigitChars_cons, value, Nat.mul_comm n]
      exact ih others _
  exact from' 0

/-- Digits are read up to a character that is none. -/
theorem digits_append {ds : List Char} (all : ∀ c ∈ ds, isDigit c = true) (nonempty : ds ≠ [])
    {c : Char} (ends : isDigitIn 10 c = false) (joins : c ≠ '_') (rest : List Char) :
    digits (isDigitIn 10) (ds ++ c :: rest) = some (ds, c :: rest) := by
  have more : ∀ ds : List Char, (∀ c ∈ ds, isDigit c = true) →
      moreDigits (isDigitIn 10) (ds ++ c :: rest) = some (ds, c :: rest) := by
    intro ds all
    induction ds with
    | nil => simp [moreDigits, ends, joins]
    | cons d ds ih =>
      obtain ⟨digit, others⟩ := List.forall_mem_cons.mp all
      have plain : d ≠ '_' := by
        rintro rfl
        exact absurd digit (by decide)
      simp [moreDigits, isDigitIn_ten digit, ih others, plain]
  obtain ⟨d, ds, rfl⟩ := List.exists_cons_of_ne_nil nonempty
  obtain ⟨digit, others⟩ := List.forall_mem_cons.mp all
  simp [digits, isDigitIn_ten digit, more ds others]

/-! ## Numbers at the end of a line -/

/-- A whole number is read at the end of a line. -/
theorem decimal_whole {w : List Char} (whole : Whole w) (negative : Bool) (rest : List Char) :
    decimal negative (w ++ '\n' :: rest) =
      (whole? (if negative then -(ofDigitChars 10 w 0 : Int) else ofDigitChars 10 w 0)).map
        fun v => (v, '\n' :: rest) := by
  have read := digits_append whole.digits whole.nonempty (c := '\n') (by decide) (by decide) rest
  have value := digitsValue_ten whole.digits
  obtain ⟨c, tail, rfl⟩ := List.exists_cons_of_ne_nil whole.nonempty
  by_cases zero : c = '0'
  · obtain rfl := whole.leading tail (by rw [zero])
    subst zero
    simp [decimal, exponent?, value]
  · rw [List.cons_append] at read ⊢
    simp [decimal, zero, read, exponent?, value]

/-- A number with a point is read at the end of a line. -/
theorem decimal_point {w fraction : List Char} (whole : Whole w)
    (digits' : ∀ c ∈ fraction, isDigit c = true) (nonempty : fraction ≠ []) (negative : Bool)
    (rest : List Char) :
    decimal negative (w ++ '.' :: (fraction ++ '\n' :: rest)) =
      (real? negative (w ++ fraction) (-(fraction.length : Int))).map
        fun v => (v, '\n' :: rest) := by
  have read := digits_append whole.digits whole.nonempty (c := '.') (by decide) (by decide)
    (fraction ++ '\n' :: rest)
  have after := digits_append digits' nonempty (c := '\n') (by decide) (by decide) rest
  obtain ⟨c, tail, rfl⟩ := List.exists_cons_of_ne_nil whole.nonempty
  by_cases zero : c = '0'
  · obtain rfl := whole.leading tail (by rw [zero])
    subst zero
    simp [decimal, exponent?, after]
  · rw [List.cons_append] at read ⊢
    simp [decimal, zero, read, after, exponent?]

/-- A digit is not a character that is none. -/
theorem ne_of_isDigit {c d : Char} (h : isDigit c = true) (other : isDigit d = false) : c ≠ d := by
  rintro rfl
  exact absurd h (by simp [other])

/-- Whether a text is that of a number without a sign: digits, with points after the first one. -/
structure Unsigned (text : List Char) : Prop where
  /-- There are only digits and points. -/
  plain : ∀ c ∈ text, isDigit c = true ∨ c = '.'
  /-- The first character is a digit. -/
  first : ∃ c tail, text = c :: tail ∧ isDigit c = true

/-- No time of day begins with a number. -/
theorem Unsigned.beginsTime_eq {text : List Char} (number : Unsigned text) (rest : List Char) :
    beginsTime (text ++ '\n' :: rest) = false := by
  have plain : ∀ c ∈ text, c ≠ ':' := by
    rintro _ hc rfl
    exact absurd (number.plain _ hc) (by decide)
  obtain ⟨c, tail, rfl, -⟩ := number.first
  match tail with
  | [] =>
    unfold beginsTime
    split
    · next h =>
      obtain ⟨rfl, -⟩ := List.cons.inj (List.cons.inj h).2
      rw [show isDigitIn 10 '\n' = false from rfl, Bool.and_false]
    · rfl
  | [d] => simp [beginsTime]
  | d :: e :: _ =>
    have := plain e (by simp)
    simp [beginsTime, this]

/-- No date begins with a number. -/
theorem Unsigned.beginsDate_eq {text : List Char} (number : Unsigned text) (rest : List Char) :
    beginsDate (text ++ '\n' :: rest) = false := by
  have plain : ∀ c ∈ text, c ≠ '-' := by
    rintro _ hc rfl
    exact absurd (number.plain _ hc) (by decide)
  have feed : isDigitIn 10 '\n' = false := by decide
  obtain ⟨c, tail, rfl, -⟩ := number.first
  -- A date has a dash after four digits, and the line ends before or there is another character.
  match tail with
  | [] | [_] | [_, _] => simp [beginsDate, feed]
  | [_, _, _] => simp [beginsDate]
  | _ :: _ :: _ :: d :: _ =>
    have := plain d (by simp)
    simp [beginsDate, this]

/-- What begins with a digit or a dash is a date or a number. -/
theorem value_dateOrNumber {c : Char} (h : isDigit c = true ∨ c = '-') (depth : Nat)
    (s : List Char) : value depth (c :: s) = dateOrNumber (c :: s) := by
  have other : ∀ d, isDigit d = false → d ≠ '-' → c ≠ d := by
    intro d plain dash
    rcases h with digit | rfl
    · exact ne_of_isDigit digit plain
    · exact dash.symm
  have double := other '"' (by decide) (by decide)
  have single := other '\'' (by decide) (by decide)
  have true' := other 't' (by decide) (by decide)
  have false' := other 'f' (by decide) (by decide)
  have quoted : quotation? c = none := by
    simp [quotation?, Quotation.basic, Quotation.literal, double, single]
  rw [value_scalar (other '[' (by decide) (by decide)) (other '{' (by decide) (by decide))]
  simp [scalar, true', false', quoted]

/-- A number without a sign is read as such. -/
theorem Unsigned.signed_eq {text : List Char} (number : Unsigned text) (negative : Bool)
    (rest : List Char) :
    signed negative (text ++ '\n' :: rest) = decimal negative (text ++ '\n' :: rest) := by
  obtain ⟨c, tail, rfl, digit⟩ := number.first
  have infinite := ne_of_isDigit digit (d := 'i') (by decide)
  have nan := ne_of_isDigit digit (d := 'n') (by decide)
  simp [signed, infinite, nan]

/-- A positive number is read as such. -/
theorem Unsigned.value_eq {text : List Char} (unsigned : Unsigned text) (depth : Nat)
    (rest : List Char) :
    value depth (text ++ '\n' :: rest) = decimal false (text ++ '\n' :: rest) := by
  have time := unsigned.beginsTime_eq rest
  have date := unsigned.beginsDate_eq rest
  have same := unsigned.signed_eq false rest
  have plain := unsigned.plain
  obtain ⟨c, tail, rfl, digit⟩ := unsigned.first
  rw [List.cons_append] at time date same ⊢
  rw [value_dateOrNumber (.inl digit), dateOrNumber, time, date, ← same]
  have plus := ne_of_isDigit digit (d := '+') (by decide)
  have dash := ne_of_isDigit digit (d := '-') (by decide)
  -- No letter for a base follows the first digit.
  match tail with
  | [] => simp [number, plus, dash]
  | d :: _ =>
    have second := plain d (by simp)
    have letter : d ≠ 'x' ∧ d ≠ 'o' ∧ d ≠ 'b' := by
      refine ⟨?_, ?_, ?_⟩ <;> rintro rfl <;> exact absurd second (by decide)
    simp [number, plus, dash, letter]

/-- A negative number is read as such. -/
theorem Unsigned.value_neg {text : List Char} (unsigned : Unsigned text) (depth : Nat)
    (rest : List Char) :
    value depth ('-' :: (text ++ '\n' :: rest)) = decimal true (text ++ '\n' :: rest) := by
  have dash : isDigitIn 10 '-' = false := by decide
  have time : beginsTime ('-' :: (text ++ '\n' :: rest)) = false := by
    unfold beginsTime
    split
    · next h => rw [← (List.cons.inj h).1, dash, Bool.false_and]
    · rfl
  have date : beginsDate ('-' :: (text ++ '\n' :: rest)) = false := by
    simp [beginsDate, dash]
  rw [value_dateOrNumber (.inr rfl), dateOrNumber, time, date, ← unsigned.signed_eq true rest]
  rfl

/-! ## Whole numbers -/

/-- A whole number has no sign. -/
theorem Whole.unsigned {w : List Char} (whole : Whole w) : Unsigned w := by
  refine ⟨fun c hc => .inl (whole.digits c hc), ?_⟩
  obtain ⟨c, tail, rfl⟩ := List.exists_cons_of_ne_nil whole.nonempty
  exact ⟨c, tail, rfl, whole.digits c (by simp)⟩

/-- **`value` reads `printInt` of an integer of 64 bits with a sign back.** -/
theorem value_printInt {i : JsonInt} (fits : i.val < 9223372036854775808) (depth : Nat)
    (rest : List Char) :
    value depth (Json.printInt i.val ++ '\n' :: rest) = some (.num (.int i), '\n' :: rest) := by
  have whole := whole_toDigits i.val.natAbs
  have number : whole? i.val = some (.num (.int i)) := by rw [whole?, dif_pos ⟨i.lower, fits⟩]
  rw [Json.printInt]
  by_cases negative : i.val < 0
  · have value : (-(i.val.natAbs : Int)) = i.val := by omega
    rw [if_pos negative, List.cons_append, whole.unsigned.value_neg, decimal_whole whole, if_pos rfl,
      Nat.ofDigitChars_ten_toDigits, value, number, Option.map_some]
  · have value : (i.val.natAbs : Int) = i.val := by omega
    rw [if_neg negative, whole.unsigned.value_eq, decimal_whole whole, if_neg (by simp),
      Nat.ofDigitChars_ten_toDigits, value, number, Option.map_some]

/-! ## Doubles -/

/-- Whether two runs of digits are those before and after the point of a number. -/
structure Positional (w fraction : List Char) (x : ℚ) : Prop where
  /-- The digits before the point are those of a whole number. -/
  whole : Whole w
  /-- The characters after the point are digits. -/
  digits : ∀ c ∈ fraction, isDigit c = true
  /-- There is one. -/
  nonempty : fraction ≠ []
  /-- All digits together stand for the number, scaled up. -/
  value : (ofDigitChars 10 (w ++ fraction) 0 : ℚ) = x * 10 ^ fraction.length

/-- Zeros, as a text. -/
theorem toList_pushn (n : Nat) : ("".pushn '0' n).toList = List.replicate n '0' := by
  rw [String.pushn_eq_repeat_push]
  induction n with
  | zero => rfl
  | succ n ih => rw [Nat.repeat, String.toList_push, ih, List.replicate_succ']

/-- A number has as many digits as its size needs. -/
theorem ten_pow_length_le {n : Nat} (positive : 0 < n) :
    10 ^ ((Nat.toDigits 10 n).length - 1) ≤ n := by
  have length := Nat.length_toDigits_pos (b := 10) (n := n)
  by_cases one : (Nat.toDigits 10 n).length = 1
  · rw [one]
    exact positive
  · have := Nat.length_toDigits_le_iff (b := 10) (n := n) (k := (Nat.toDigits 10 n).length - 1)
      (by omega) (by omega)
    omega

/-- A decimal in range has a scale in range. -/
theorem scale_le {d : Nat} (positive : 0 < d) {k : Int} (high : (d * 10 ^ k : ℚ) < 10 ^ 400) :
    ((Nat.toDigits 10 d).length : Int) - 1 + k ≤ 400 := by
  have length := Nat.length_toDigits_pos (b := 10) (n := d)
  have size : (10 : ℚ) ^ ((Nat.toDigits 10 d).length - 1) ≤ d := by
    exact_mod_cast ten_pow_length_le positive
  by_contra larger
  refine absurd high (not_lt.mpr ?_)
  calc (10 : ℚ) ^ 400 = 10 ^ (400 : Int) := by rw [zpow_ofNat]
    _ ≤ 10 ^ ((((Nat.toDigits 10 d).length - 1 : Nat) : Int) + k) :=
      zpow_le_zpow_right₀ (by norm_num) (by omega)
    _ = 10 ^ ((Nat.toDigits 10 d).length - 1) * 10 ^ k := by
      rw [zpow_add₀ (by norm_num), zpow_natCast]
    _ ≤ d * 10 ^ k := by gcongr

/-- Digits, zeros and a zero after the point stand for a whole number. -/
theorem positional_integral {d : Nat} (positive : 0 < d) (n : Nat) :
    Positional (Nat.toDigits 10 d ++ List.replicate n '0') ['0'] (d * 10 ^ n) := by
  refine ⟨whole_append_zeros positive n, digits_zero, by simp, ?_⟩
  have zero : ofDigitChars 10 ['0'] (10 ^ n * d) = 10 * (10 ^ n * d) := by simp [ofDigitChars]
  rw [Nat.ofDigitChars_append, Nat.ofDigitChars_append, Nat.ofDigitChars_ten_toDigits,
    Nat.ofDigitChars_replicate_zero, zero, List.length_singleton]
  push_cast
  ring

/-- Digits with the point among them stand for a number that they are when it is scaled up. -/
theorem positional_among {d n : Nat} (positive : 0 < n) (short : n < (Nat.toDigits 10 d).length)
    {x : ℚ} (scaled : x * 10 ^ ((Nat.toDigits 10 d).length - n) = d) :
    Positional ((Nat.toDigits 10 d).take n) ((Nat.toDigits 10 d).drop n) x := by
  have whole := whole_toDigits d
  refine ⟨whole.take positive, fun c hc => whole.digits c (List.mem_of_mem_drop hc), ?_, ?_⟩
  · rw [Ne, List.drop_eq_nil_iff]
    omega
  · rw [List.take_append_drop, Nat.ofDigitChars_ten_toDigits, List.length_drop, scaled]

/-- Digits that zeros set apart from the point stand for a number that they are when it is scaled
up. -/
theorem positional_below {d n : Nat} {x : ℚ}
    (scaled : x * 10 ^ (n + (Nat.toDigits 10 d).length) = d) :
    Positional ['0'] (List.replicate n '0' ++ Nat.toDigits 10 d) x := by
  have whole := whole_toDigits d
  refine ⟨whole_toDigits 0, fun c hc => ?_, by simp [whole.nonempty], ?_⟩
  · rcases List.mem_append.mp hc with hc | hc
    · rw [List.eq_of_mem_replicate hc]
      rfl
    · exact whole.digits c hc
  · have zero : ofDigitChars 10 ['0'] 0 = 0 := by decide
    rw [Nat.ofDigitChars_append, zero, Nat.ofDigitChars_append, Nat.ofDigitChars_replicate_zero,
      Nat.mul_zero, Nat.ofDigitChars_ten_toDigits, List.length_append, List.length_replicate, scaled]

/-- **A decimal in range is written with a point**, and what is written stands for it. -/
theorem exists_positional {d : Nat} (positive : 0 < d) {k : Int} (low : -400 ≤ k)
    (high : (d * 10 ^ k : ℚ) < 10 ^ 400) :
    ∃ w fraction, ((Decimal.mk d k).render realStyle).toList = w ++ '.' :: fraction ∧
      Positional w fraction (d * 10 ^ k) := by
  have length := Nat.length_toDigits_pos (b := 10) (n := d)
  have range : realStyle.lowest ≤ ((Nat.toDigits 10 d).length : Int) - 1 + k ∧
      ((Nat.toDigits 10 d).length : Int) - 1 + k ≤ realStyle.highest := by
    refine ⟨?_, scale_le positive high⟩
    show (-400 : Int) ≤ _
    omega
  have scaled : ∀ n : Nat, (n : Int) = -k → (d * 10 ^ k : ℚ) * 10 ^ n = d := by
    intro n hn
    rw [mul_assoc, ← zpow_natCast, ← zpow_add₀ (by norm_num), hn, add_neg_cancel, zpow_zero,
      mul_one]
  unfold Decimal.render
  simp only [Nat.toString_eq_ofList_toDigits, String.length_ofList, if_pos range,
    String.toList_ofList]
  -- The point follows all digits, stands among them, or comes before the first one.
  by_cases integral : 0 ≤ k
  · obtain ⟨n, rfl⟩ := Int.eq_ofNat_of_zero_le integral
    rw [if_pos integral, zpow_natCast]
    refine ⟨_, _, ?_, positional_integral positive n⟩
    simp [toList_pushn, realStyle]
  rw [if_neg integral]
  by_cases among : 0 ≤ ((Nat.toDigits 10 d).length : Int) - 1 + k
  · rw [if_pos among]
    refine ⟨_, _, ?_, positional_among (n := (((Nat.toDigits 10 d).length : Int) - 1 + k + 1).toNat)
      (by omega) (by omega) (scaled _ (by omega))⟩
    simp
  · rw [if_neg among]
    refine ⟨_, _, ?_, positional_below
      (n := (-(((Nat.toDigits 10 d).length : Int) - 1 + k) - 1).toNat) (scaled _ (by omega))⟩
    simp [toList_pushn]

/-- Digits that stand for a number near a double are rounded to it. -/
theorem nearest_of_near {x : Double} {negative : Bool} {m : Nat} {e : Int}
    (h : x.value = .finite negative m e) (hm : 0 < m) {w fraction : List Char} {y : ℚ}
    (positional : Positional w fraction y) (near : BinaryFormat.double.Near m e y) :
    nearest negative (w ++ fraction) (-(fraction.length : Int)) = x := by
  obtain ⟨regular, finite, bits⟩ := BinaryFormat.decode_eq_finite (by decide) x.bits.toNat_lt h
  have digits : ∀ c ∈ w ++ fraction, isDigit c = true :=
    List.forall_mem_append.mpr ⟨positional.whole.digits, positional.digits⟩
  have power : (0 : ℚ) < 10 ^ fraction.length := by positivity
  have value := positional.value
  have positive : ofDigitChars 10 (w ++ fraction) 0 ≠ 0 := by
    intro zero
    rw [zero, Nat.cast_zero] at value
    exact absurd value.symm (mul_pos (near.positive hm) power).ne'
  have within : max (-400 - ((w ++ fraction).length : Int)) (min 400 (-(fraction.length : Int))) =
      -(fraction.length : Int) := by
    rw [List.length_append]
    omega
  have encoded : BinaryFormat.double.encode negative
      (ofDigitChars 10 (w ++ fraction) 0 * Nat.pow 10 (-(fraction.length : Int)).toNat)
      (Nat.pow 10 (- -(fraction.length : Int)).toNat) 0 = x.bits.toNat := by
    rw [bits]
    refine BinaryFormat.encode_of_near (by decide) regular hm finite (Nat.pow_pos (by omega)) ?_ _
    rw [neg_neg, Int.toNat_natCast, Int.toNat_neg_natCast, zpow_zero, mul_one, Nat.pow_eq]
    push_cast
    rwa [value, mul_one, mul_div_assoc, div_self power.ne', mul_one]
  rw [nearest, digitsValue_ten digits]
  simp only [if_neg positive, within]
  rw [Double.ofDecimal, Double.ofRatio, Double.ofScaled, encoded, UInt64.ofNat_toNat]

/-- Zero is read with its sign. -/
theorem nearest_zero {x : Double} {negative : Bool} {e : Int}
    (h : x.value = .finite negative 0 e) : nearest negative ['0', '0'] (-1) = x := by
  obtain ⟨regular, -, bits⟩ := BinaryFormat.decode_eq_finite (by decide) x.bits.toNat_lt h
  have zero : digitsValue 10 ['0', '0'] = 0 := by decide
  rw [regular.pattern_zero, Nat.zero_add] at bits
  rw [nearest]
  simp only [zero, if_true]
  rw [Double.ofDecimal, Double.ofRatio, Double.ofScaled, Nat.zero_mul, BinaryFormat.encode_zero,
    ← bits, UInt64.ofNat_toNat]

/-- A finite double is written as its sign and digits around a point, and these are read as it. -/
theorem exists_printReal {x : Double} {negative : Bool} {m : Nat} {e : Int}
    (h : x.value = .finite negative m e) :
    ∃ w fraction, printReal x = (if negative then ['-'] else []) ++ (w ++ '.' :: fraction) ∧
      Whole w ∧ (∀ c ∈ fraction, isDigit c = true) ∧ fraction ≠ [] ∧
        nearest negative (w ++ fraction) (-(fraction.length : Int)) = x := by
  have decoded : BinaryFormat.double.decode x.bits.toNat = .finite negative m e := h
  have sign : (if negative then "-" else "").toList = if negative then ['-'] else [] := by
    cases negative <;> rfl
  rw [printReal, h]
  simp only [Double.render, BinaryFormat.render, decoded]
  by_cases zero : m = 0
  · subst zero
    refine ⟨['0'], ['0'], ?_, whole_toDigits 0, digits_zero, by simp, nearest_zero h⟩
    simp [realStyle, sign]
  · have positive : 0 < m := Nat.pos_of_ne_zero zero
    obtain ⟨regular, finite, -⟩ := BinaryFormat.decode_eq_finite (by decide) x.bits.toNat_lt h
    obtain ⟨d, k, shortest, near, low, high⟩ :=
      BinaryFormat.exists_shortest regular positive finite
    have some' : 0 < d := by
      rw [Nat.pos_iff_ne_zero]
      rintro rfl
      have := near.positive positive
      simp at this
    obtain ⟨w, fraction, text, positional⟩ := exists_positional some' low high
    refine ⟨w, fraction, ?_, positional.whole, positional.digits, positional.nonempty,
      nearest_of_near h positive positional near⟩
    rw [if_neg zero, String.toList_append, sign, shortest, text]

/-- **`value` reads `printReal` of a finite double back.** -/
theorem value_printReal {x : Double} (finite : x.isFinite = true) (depth : Nat) (rest : List Char) :
    value depth (printReal x ++ '\n' :: rest) = some (.num (.float x), '\n' :: rest) := by
  obtain ⟨negative, m, e, h⟩ : ∃ negative m e, x.value = .finite negative m e := by
    rw [Double.isFinite] at finite
    split at finite
    · next h => exact ⟨_, _, _, h⟩
    · exact absurd finite nofun
  obtain ⟨w, fraction, text, whole, digits, nonempty, read⟩ := exists_printReal h
  have unsigned : Unsigned (w ++ '.' :: fraction) := by
    refine ⟨fun c hc => ?_, ?_⟩
    · rcases List.mem_append.mp hc with hc | hc
      · exact .inl (whole.digits c hc)
      · rcases List.mem_cons.mp hc with rfl | hc
        · exact .inr rfl
        · exact .inl (digits c hc)
    · obtain ⟨c, tail, rfl⟩ := List.exists_cons_of_ne_nil whole.nonempty
      exact ⟨c, tail ++ '.' :: fraction, rfl, whole.digits c (by simp)⟩
  have number : real? negative (w ++ fraction) (-(fraction.length : Int)) = some (.num (.float x)) := by
    simp [real?, read, finite]
  have point := decimal_point whole digits nonempty negative rest
  rw [number, Option.map_some] at point
  rw [text]
  cases negative with
  | true => simpa using (unsigned.value_neg depth rest).trans (by simpa using point)
  | false => simpa using (unsigned.value_eq depth rest).trans (by simpa using point)

end Toml

end Colloquy
