import Colloquy.Binary.Base64
import Colloquy.Proofs.Text.Utf8

/-! # Base 64 read back

What is written in base 64 is read back as it was (`Base64.decode_encode`): full groups one after
the other, and the last group by its digits and its padding. -/

namespace Colloquy.Base64

variable {n start : Nat}

/-! ## Symbols -/

/-- **A digit is read back from its symbol.** -/
theorem digit?_symbol (small : n < 64) : digit? (symbol n) = some n := by
  have all : ∀ i : Fin 64, digit? (symbol i) = some i.val := by decide
  exact all ⟨n, small⟩

/-- The symbol of a digit is no padding. -/
theorem symbol_ne_pad (small : n < 64) : symbol n ≠ pad := by
  have all : ∀ i : Fin 64, symbol i ≠ pad := by decide
  exact all ⟨n, small⟩

/-- The symbol of a digit is a character of its own. -/
theorem symbol_lt (small : n < 64) : symbol n < 0x80 := by
  have all : ∀ i : Fin 64, symbol i < 0x80 := by decide
  exact all ⟨n, small⟩

/-- A digit is read back from its symbol, wherever that stands. -/
theorem digitAt_symbol (small : n < 64) (offset : Nat) : digitAt offset (symbol n) = .ok n := by
  rw [digitAt, digit?_symbol small]

/-! ## Digits -/

/-- The first digit of a group. -/
theorem first_lt (a : UInt8) : a.toNat / 4 < 64 := by
  have := a.toNat_lt
  omega

/-- The second digit of a group, which has bits of two bytes. -/
theorem second_lt (a b : UInt8) : a.toNat % 4 * 16 + b.toNat / 16 < 64 := by
  have := b.toNat_lt
  omega

/-- The third digit of a group, which has bits of two bytes. -/
theorem third_lt (b c : UInt8) : b.toNat % 16 * 4 + c.toNat / 64 < 64 := by
  have := c.toNat_lt
  omega

/-- The last digit of a group. -/
theorem last_lt (c : UInt8) : c.toNat % 64 < 64 := Nat.mod_lt _ (by decide)

/-- The first byte of a group has its first digit and the upper bits of its second one. -/
theorem byte_first (a b : UInt8) :
    UInt8.ofNat (a.toNat / 4 * 4 + (a.toNat % 4 * 16 + b.toNat / 16) / 16) = a := by
  have small := b.toNat_lt
  have whole : a.toNat / 4 * 4 + (a.toNat % 4 * 16 + b.toNat / 16) / 16 = a.toNat := by omega
  rw [whole, UInt8.ofNat_toNat]

/-- The second byte of a group has the other bits of the second digit and the upper ones of the
third. -/
theorem byte_second (a b c : UInt8) :
    UInt8.ofNat ((a.toNat % 4 * 16 + b.toNat / 16) % 16 * 16 +
      (b.toNat % 16 * 4 + c.toNat / 64) / 4) = b := by
  have small := b.toNat_lt
  have small' := c.toNat_lt
  have whole : (a.toNat % 4 * 16 + b.toNat / 16) % 16 * 16 +
      (b.toNat % 16 * 4 + c.toNat / 64) / 4 = b.toNat := by omega
  rw [whole, UInt8.ofNat_toNat]

/-- The third byte of a group has the other bits of the third digit and the last one. -/
theorem byte_third (b c : UInt8) :
    UInt8.ofNat ((b.toNat % 16 * 4 + c.toNat / 64) % 4 * 64 + c.toNat % 64) = c := by
  have small := c.toNat_lt
  have whole : (b.toNat % 16 * 4 + c.toNat / 64) % 4 * 64 + c.toNat % 64 = c.toNat := by omega
  rw [whole, UInt8.ofNat_toNat]

/-- **Three bytes are read back from their four digits.** -/
theorem threeBytes_digits (a b c : UInt8) :
    threeBytes (a.toNat / 4) (a.toNat % 4 * 16 + b.toNat / 16) (b.toNat % 16 * 4 + c.toNat / 64)
      (c.toNat % 64) = [a, b, c] := by
  rw [threeBytes, byte_first, byte_second, byte_third]

/-! ## The last group -/

/-- The digits of a group are read back, with the padding that fills it up. -/
theorem lastDigits_symbols {digits : List Nat} {i padding : Nat} (small : ∀ d ∈ digits, d < 64)
    (late : padding = 0 ∨ 2 ≤ i + digits.length) :
    lastDigits start i (digits.map symbol ++ List.replicate padding pad) =
      .ok (digits, padding) := by
  induction digits generalizing i with
  | nil =>
    cases padding with
    | zero => rfl
    | succ padding =>
      have late : 2 ≤ i := by simpa using late
      simp [List.replicate_succ, lastDigits, late]
  | cons d digits ih =>
    obtain ⟨first, others⟩ := List.forall_mem_cons.mp small
    have later : padding = 0 ∨ 2 ≤ i + 1 + digits.length := by
      rw [List.length_cons] at late
      omega
    rw [List.map_cons, List.cons_append, lastDigits, if_neg (symbol_ne_pad first),
      digitAt_symbol first]
    change (lastDigits start (i + 1) _ >>= _) = _
    rw [ih others later]
    rfl

/-- A group is read back from its digits and its padding. -/
theorem decodeLast_symbols (padding : Nat) {digits : List Nat} {bytes : List UInt8}
    (small : ∀ d ∈ digits, d < 64) (late : padding = 0 ∨ 2 ≤ digits.length)
    (several : digits.length ≠ 1) (full : (digits.length + padding) % 4 = 0)
    (whole : lastBytes digits = some bytes) :
    decodeLast start (digits.map symbol ++ List.replicate padding pad) = .ok bytes := by
  have late : padding = 0 ∨ 2 ≤ 0 + digits.length := by rwa [Nat.zero_add]
  rw [decodeLast, lastDigits_symbols small late]
  simp only [bind, Except.bind, several, full, whole, if_false, ne_eq, not_true]

/-! ## Texts -/

/-- Only the text of no bytes is empty. -/
theorem encode_eq_nil {bytes : List UInt8} : encode bytes = [] ↔ bytes = [] := by
  fun_cases encode bytes <;> simp

/-- The groups of a text are full. -/
theorem length_encode (bytes : List UInt8) : (encode bytes).length % 4 = 0 := by
  fun_induction encode bytes with
  | case1 => rfl
  | case2 a => simp
  | case3 a b => simp
  | case4 a b c rest ih =>
    simp only [List.length_cons]
    omega

/-- A text consists of characters of one byte. -/
theorem lt_of_mem_encode {bytes : List UInt8} : ∀ b ∈ encode bytes, b < 0x80 := by
  have padding : pad < 0x80 := by decide
  fun_induction encode bytes with
  | case1 => exact nofun
  | case2 a =>
    have second : a.toNat % 4 * 16 < 64 := by omega
    simp [symbol_lt (first_lt a), symbol_lt second, padding]
  | case3 a b =>
    have third : b.toNat % 16 * 4 < 64 := by omega
    simp [symbol_lt (first_lt a), symbol_lt (second_lt a b), symbol_lt third, padding]
  | case4 a b c rest ih =>
    simp only [List.forall_mem_cons]
    exact ⟨symbol_lt (first_lt a), symbol_lt (second_lt a b), symbol_lt (third_lt b c),
      symbol_lt (last_lt c), ih⟩

/-- **`decodeFrom` reads a text back group by group**, wherever it begins. -/
theorem decodeFrom_encode (bytes : List UInt8) (start : Nat) :
    decodeFrom start (encode bytes) = .ok bytes := by
  fun_induction encode bytes generalizing start with
  | case1 => rfl
  | case2 a =>
    have second : a.toNat % 4 * 16 < 64 := by omega
    have byte : a.toNat / 4 * 4 + a.toNat % 4 * 16 / 16 = a.toNat := by omega
    have whole : lastBytes [a.toNat / 4, a.toNat % 4 * 16] = some [a] := by
      rw [lastBytes, if_pos (Nat.mul_mod_left _ _), byte, UInt8.ofNat_toNat]
    exact decodeLast_symbols 2 (by simp [first_lt, second]) (by simp) (by simp) (by simp) whole
  | case3 a b =>
    have third : b.toNat % 16 * 4 < 64 := by omega
    have byte : (a.toNat % 4 * 16 + b.toNat / 16) % 16 * 16 + b.toNat % 16 * 4 / 4 = b.toNat := by
      have := b.toNat_lt
      omega
    have whole : lastBytes [a.toNat / 4, a.toNat % 4 * 16 + b.toNat / 16, b.toNat % 16 * 4] =
        some [a, b] := by
      rw [lastBytes, if_pos (Nat.mul_mod_left _ _), byte_first, byte, UInt8.ofNat_toNat]
    exact decodeLast_symbols 1 (by simp [first_lt, second_lt, third]) (by simp) (by simp) (by simp)
      whole
  | case4 a b c rest ih =>
    cases more : encode rest with
    | nil =>
      obtain rfl := encode_eq_nil.mp more
      have whole : lastBytes [a.toNat / 4, a.toNat % 4 * 16 + b.toNat / 16,
          b.toNat % 16 * 4 + c.toNat / 64, c.toNat % 64] = some [a, b, c] :=
        congrArg some (threeBytes_digits a b c)
      exact decodeLast_symbols 0 (by simp [first_lt, second_lt, third_lt, last_lt]) (by simp)
        (by simp) (by simp) whole
    | cons symbol more' =>
      have later := ih (start + 4)
      rw [more] at later
      rw [decodeFrom, digitAt_symbol (first_lt a), digitAt_symbol (second_lt a b),
        digitAt_symbol (third_lt b c), digitAt_symbol (last_lt c), later]
      exact congrArg (fun group => Except.ok (group ++ rest)) (threeBytes_digits a b c)

/-- **`decode (encode bytes) = .ok bytes`.** -/
theorem decode_encode (bytes : List UInt8) : decode (encode bytes) = .ok bytes := by
  rw [decode]
  split
  · rw [if_neg fun stray => by rw [length_encode] at stray; cases stray.1]
    exact decodeFrom_encode bytes 0
  · next none =>
    rw [List.getLast?_eq_none_iff, encode_eq_nil] at none
    rw [none]

/-- The text of some bytes in base 64. -/
def text (bytes : List UInt8) : String := String.ofList (Utf8.decodeLossy (encode bytes))

/-- A text consists of the bytes that were written. -/
theorem encode_text (bytes : List UInt8) : Utf8.encode (text bytes).toList = encode bytes := by
  rw [text, String.toList_ofList, Utf8.encode_decodeLossy lt_of_mem_encode]

end Colloquy.Base64
