import Colloquy.Proofs.Except
import Colloquy.Proofs.Json.RoundTrip
import Mathlib.Data.List.TakeWhile

/-! # The grammar of JSON text

JSON text as it is defined: blanks, strings, numbers, literal words, and arrays and objects in terms
of what may follow their opening.  The scanner that only looks at the form of a text accepts exactly
the texts of this grammar; the main statement is `Json.wellFormed_iff`. -/

namespace Colloquy.Json

/-! ## The grammar -/

/-- Blanks between tokens. -/
def Blanks (s : List Char) : Prop := ∀ c ∈ s, isSpace c = true

/-- A hexadecimal digit. -/
def IsHex (c : Char) : Prop :=
  isDigit c = true ∨ ('a' ≤ c ∧ c ≤ 'f') ∨ ('A' ≤ c ∧ c ≤ 'F')

/-- What follows the opening quote of a string, up to its closing quote. -/
inductive StringTail : List Char → Prop where
  /-- The closing quote. -/
  | quote : StringTail ['"']
  /-- A character that stands for itself. -/
  | plain {c : Char} {s : List Char} (other : c ≠ '"') (unescaped : c ≠ '\\')
    (visible : 0x20 ≤ c.toNat) (rest : StringTail s) : StringTail (c :: s)
  /-- An escape of one letter. -/
  | escape {c : Char} {s : List Char} (letter : c ∈ ['"', '\\', '/', 'b', 'f', 'n', 'r', 't'])
    (rest : StringTail s) : StringTail ('\\' :: c :: s)
  /-- An escape of four hexadecimal digits. -/
  | code {a b c d : Char} {s : List Char} (digits : ∀ x ∈ [a, b, c, d], IsHex x)
    (rest : StringTail s) : StringTail ('\\' :: 'u' :: a :: b :: c :: d :: s)

/-- One digit or more. -/
inductive Digits : List Char → Prop where
  /-- A digit, and any number of them after it. -/
  | mk {c : Char} {s : List Char} (first : isDigit c = true) (others : ∀ d ∈ s, isDigit d = true) :
    Digits (c :: s)

/-- The integer part of a number; only zero begins with a zero. -/
inductive Whole : List Char → Prop where
  /-- Zero. -/
  | zero : Whole ['0']
  /-- A number that is not zero. -/
  | positive {c : Char} {s : List Char} (first : c ≠ '0') (digits : Digits (c :: s)) :
    Whole (c :: s)

/-- The fraction of a number, if it has one. -/
inductive Fraction : List Char → Prop where
  /-- No fraction. -/
  | none : Fraction []
  /-- Digits after a point. -/
  | point {s : List Char} (digits : Digits s) : Fraction ('.' :: s)

/-- The exponent of a number, if it has one. -/
inductive Exponent : List Char → Prop where
  /-- No exponent. -/
  | none : Exponent []
  /-- Digits after a letter, with a sign or without. -/
  | letter {c : Char} {sign s : List Char} (letter : c = 'e' ∨ c = 'E')
    (signed : sign ∈ [[], ['+'], ['-']]) (digits : Digits s) : Exponent (c :: (sign ++ s))

/-- A number without a sign. -/
inductive Unsigned : List Char → Prop where
  /-- Its parts in order. -/
  | mk {whole fraction exponent : List Char} (hw : Whole whole) (hf : Fraction fraction)
    (he : Exponent exponent) : Unsigned (whole ++ (fraction ++ exponent))

/-- A value that is neither an array nor an object nor a string. -/
inductive Scalar : List Char → Prop where
  /-- A literal word. -/
  | word {s : List Char} (word : s ∈ ["null".toList, "true".toList, "false".toList]) : Scalar s
  /-- A number that is not negative. -/
  | unsigned {s : List Char} (number : Unsigned s) : Scalar s
  /-- A number with a sign. -/
  | signed {s : List Char} (number : Unsigned s) : Scalar ('-' :: s)

/-- The character that opens a frame. -/
def Frame.opening : Frame → Char
  | .list => '['
  | .object => '{'

/-- What comes before a value within a frame: nothing in an array, a name and a colon in an
object. -/
inductive Key : Frame → List Char → Prop where
  /-- Nothing. -/
  | nothing : Key .list []
  /-- A name and a colon. -/
  | name {before s after : List Char} (hb : Blanks before) (string : StringTail s)
    (ha : Blanks after) : Key .object (before ++ '"' :: (s ++ (after ++ [':'])))

/-- What comes before a value that is not the first one. -/
def separator : Bool → List Char
  | false => []
  | true => [',']

/-- The parts of a text that nest: a value, and what follows the opening of a frame or, after a
comma has become necessary, one of its values. -/
inductive Part where
  /-- A value. -/
  | value
  /-- The rest of a frame, up to its closing. -/
  | rest (frame : Frame) (comma : Bool)

/-- Whether a text is such a part. -/
inductive Derives : Part → List Char → Prop where
  /-- A word or a number is a value. -/
  | scalar {s : List Char} (scalar : Scalar s) : Derives .value s
  /-- A string is a value. -/
  | string {s : List Char} (string : StringTail s) : Derives .value ('"' :: s)
  /-- An array or an object is a value. -/
  | compound {frame : Frame} {s : List Char} (rest : Derives (.rest frame false) s) :
    Derives .value (frame.opening :: s)
  /-- A frame may be closed. -/
  | close {frame : Frame} {comma : Bool} {blanks : List Char} (hb : Blanks blanks) :
    Derives (.rest frame comma) (blanks ++ [frame.close])
  /-- A frame may go on with a value. -/
  | item {frame : Frame} {comma : Bool} {before key blanks value s : List Char}
    (hb : Blanks before) (hk : Key frame key) (hb' : Blanks blanks) (hv : Derives .value value)
    (rest : Derives (.rest frame true) s) :
    Derives (.rest frame comma)
      (before ++ (separator comma ++ (key ++ (blanks ++ (value ++ s)))))

/-- Whether a text is an array or an object. -/
def Compound (s : List Char) : Prop :=
  ∃ frame tail, s = Frame.opening frame :: tail ∧ Derives (.rest frame false) tail

/-- Whether a text is a value with any blanks around it. -/
def IsText (s : List Char) : Prop :=
  ∃ before value after, s = before ++ (value ++ after) ∧ Blanks before ∧ Derives .value value ∧
    Blanks after

/-! ## Blanks -/

/-- `skipSpace` passes over blanks. -/
theorem skipSpace_append {blanks : List Char} (hb : Blanks blanks) (s : List Char) :
    skipSpace (blanks ++ s) = skipSpace s :=
  List.dropWhile_append_of_pos hb

/-- Blanks are skipped up to a character that is none. -/
theorem skipSpace_append_cons {blanks : List Char} (hb : Blanks blanks) {c : Char}
    (visible : isSpace c = false) (s : List Char) : skipSpace (blanks ++ c :: s) = c :: s := by
  rw [skipSpace_append hb, skipSpace_cons visible]

/-- What is skipped are blanks. -/
theorem exists_blanks_of_skipSpace {s : List Char} :
    ∃ blanks, s = blanks ++ skipSpace s ∧ Blanks blanks :=
  ⟨s.takeWhile isSpace, List.takeWhile_append_dropWhile.symm,
    fun _ mem => List.mem_takeWhile_imp mem⟩

/-- A text of blanks is skipped as a whole. -/
theorem skipSpace_eq_nil {s : List Char} : skipSpace s = [] ↔ Blanks s := by
  rw [skipSpace, List.dropWhile_eq_nil_iff, Blanks]

/-! ## Words -/

/-- `readWord` passes over a word. -/
theorem readWord_append (word rest : List Char) : readWord word (word ++ rest) = .ok rest := by
  induction word with
  | nil => rfl
  | cons w word ih => rw [List.cons_append, readWord, if_pos rfl, ih]

/-- What is passed over is the word. -/
theorem eq_append_of_readWord {word s rest : List Char} (h : readWord word s = .ok rest) :
    s = word ++ rest := by
  induction word generalizing s with
  | nil => exact Except.ok.inj h
  | cons w word ih =>
    cases s with
    | nil => cases h
    | cons c s =>
      rw [readWord] at h
      split at h
      · next same => rw [same, ih h, List.cons_append]
      · cases h

/-! ## Strings -/

/-- Hexadecimal digits are those that have a value. -/
theorem isHex_iff {c : Char} : IsHex c ↔ ∃ n, hexValue? c = some n := by
  simp only [IsHex, hexValue?, Bool.and_eq_true, decide_eq_true_eq]
  repeat' split
  all_goals simp_all

/-- A hexadecimal digit stands for itself within a string. -/
theorem IsHex.plain {c : Char} (h : IsHex c) : c ≠ '"' ∧ c ≠ '\\' ∧ 0x20 ≤ c.toNat := by
  have range : 48 ≤ c.toNat ∧ c.toNat ≤ 57 ∨ 97 ≤ c.toNat ∧ c.toNat ≤ 102 ∨
      65 ≤ c.toNat ∧ c.toNat ≤ 70 := by
    simpa [IsHex, isDigit, Char.le_def, UInt32.le_iff_toNat_le] using h
  refine ⟨?_, ?_, by omega⟩ <;> rintro rfl <;> revert range <;> decide

/-- Four hexadecimal digits are read. -/
theorem exists_readHex {a b c d : Char} (digits : ∀ x ∈ [a, b, c, d], IsHex x) (s : List Char) :
    ∃ r, readHex (a :: b :: c :: d :: s) = .ok r := by
  simp only [List.forall_mem_cons, isHex_iff] at digits
  obtain ⟨⟨_, ha⟩, ⟨_, hb⟩, ⟨_, hc⟩, ⟨_, hd⟩, -⟩ := digits
  simp [readHex, ha, hb, hc, hd]

/-- What is read as four hexadecimal digits begins with them. -/
theorem eq_cons_of_readHex {s : List Char} {r : Nat × List Char} (h : readHex s = .ok r) :
    ∃ a b c d rest, s = a :: b :: c :: d :: rest ∧ ∀ x ∈ [a, b, c, d], IsHex x := by
  unfold readHex at h
  split at h
  · next a b c d rest =>
    split at h
    · next ha hb hc hd =>
      exact ⟨a, b, c, d, rest, rfl, by simp [isHex_iff, ha, hb, hc, hd]⟩
    · cases h
  · split at h <;> cases h

/-- Escapes of one letter are those that have a character. -/
theorem isSome_shortEscape? {c : Char} :
    (shortEscape? c).isSome = true ↔ c ∈ ['"', '\\', '/', 'b', 'f', 'n', 'r', 't'] := by
  simp only [shortEscape?, List.mem_cons, List.not_mem_nil, or_false]
  grind

/-- A character that stands for itself is passed over. -/
theorem skipString_plain {c : Char} (other : c ≠ '"') (unescaped : c ≠ '\\')
    (visible : 0x20 ≤ c.toNat) (s : List Char) : skipString (c :: s) = skipString s := by
  rw [skipString.eq_def]
  simp [other, unescaped, Nat.not_lt.mpr visible]

/-- **`skipString` passes over a string.** -/
theorem StringTail.skipString_append {s : List Char} (h : StringTail s) (rest : List Char) :
    skipString (s ++ rest) = .ok rest := by
  induction h with
  | quote => rw [List.singleton_append, skipString.eq_def]; rfl
  | plain other unescaped visible _ ih =>
    rw [List.cons_append, skipString_plain other unescaped visible, ih]
  | @escape c s letter _ ih =>
    have known := isSome_shortEscape?.mpr letter
    have other : c ≠ 'u' := by
      rintro rfl
      revert letter
      decide
    rw [List.cons_append, List.cons_append, skipString.eq_def]
    simp [other, known, ih]
  | @code a b c d s digits _ ih =>
    obtain ⟨r, read⟩ := exists_readHex digits (s ++ rest)
    -- The digits are passed over as characters.
    have passed : skipString (a :: b :: c :: d :: (s ++ rest)) = .ok rest := by
      simp only [List.forall_mem_cons] at digits
      obtain ⟨ha, hb, hc, hd, -⟩ := digits
      rw [skipString_plain ha.plain.1 ha.plain.2.1 ha.plain.2.2,
        skipString_plain hb.plain.1 hb.plain.2.1 hb.plain.2.2,
        skipString_plain hc.plain.1 hc.plain.2.1 hc.plain.2.2,
        skipString_plain hd.plain.1 hd.plain.2.1 hd.plain.2.2, ih]
    simp only [List.cons_append]
    rw [skipString.eq_def]
    simp [read, passed]

/-- Where a string goes on with a hexadecimal digit, that is one of its characters. -/
theorem StringTail.of_isHex {s rest t : List Char} {c : Char} (h : StringTail s)
    (text : s ++ rest = c :: t) (digit : IsHex c) :
    ∃ s', s = c :: s' ∧ StringTail s' ∧ s' ++ rest = t := by
  have ordinary := digit.plain
  cases h with
  | quote => exact absurd (List.cons.inj text).1.symm ordinary.1
  | plain _ _ _ tail =>
    obtain ⟨rfl, rfl⟩ := List.cons.inj text
    exact ⟨_, rfl, tail, rfl⟩
  | escape => exact absurd (List.cons.inj text).1.symm ordinary.2.1
  | code => exact absurd (List.cons.inj text).1.symm ordinary.2.1

/-- **How the scanner goes on within a string**: to its end, or after a character or an escape. -/
theorem skipString_eq_ok {s rest : List Char} (h : skipString s = .ok rest) :
    s = '"' :: rest ∨
    (∃ c t, s = c :: t ∧ c ≠ '"' ∧ c ≠ '\\' ∧ 0x20 ≤ c.toNat ∧ skipString t = .ok rest) ∨
    (∃ c t, s = '\\' :: c :: t ∧ (shortEscape? c).isSome = true ∧ skipString t = .ok rest) ∨
    ∃ t r, s = '\\' :: 'u' :: t ∧ readHex t = .ok r ∧ skipString t = .ok rest := by
  rw [skipString.eq_def] at h
  cases s with
  | nil => cases h
  | cons c s =>
    simp only at h
    split at h
    · next quote =>
      obtain rfl := Except.ok.inj h
      exact .inl (by rw [quote])
    · next other =>
      right
      split at h
      · next escaped =>
        subst escaped
        cases s with
        | nil => cases h
        | cons d s =>
          simp only at h
          split at h
          · next code =>
            subst code
            split at h
            · next r read => exact .inr (.inr ⟨s, r, rfl, read, h⟩)
            · cases h
          · split at h
            · next known => exact .inr (.inl ⟨d, s, rfl, known, h⟩)
            · cases h
      · next unescaped =>
        split at h
        · cases h
        · next visible => exact .inl ⟨c, s, rfl, other, unescaped, Nat.le_of_not_lt visible, h⟩

/-- **What `skipString` passes over is a string.** -/
theorem exists_of_skipString {s rest : List Char} (h : skipString s = .ok rest) :
    ∃ t, s = t ++ rest ∧ StringTail t := by
  induction n : s.length using Nat.strongRecOn generalizing s with
  | _ n ih =>
    subst n
    rcases skipString_eq_ok h with rfl | ⟨c, s, rfl, other, unescaped, visible, more⟩ |
      ⟨c, s, rfl, known, more⟩ | ⟨s, r, rfl, read, more⟩
    · exact ⟨_, by rw [List.singleton_append], .quote⟩
    · obtain ⟨t, rfl, tail⟩ := ih s.length (by rw [List.length_cons]; omega) more rfl
      exact ⟨_, rfl, .plain other unescaped visible tail⟩
    · have shorter : s.length < ('\\' :: c :: s).length := by
        rw [List.length_cons, List.length_cons]
        omega
      obtain ⟨t, rfl, tail⟩ := ih s.length shorter more rfl
      exact ⟨_, rfl, .escape (isSome_shortEscape?.mp known) tail⟩
    · have shorter : s.length < ('\\' :: 'u' :: s).length := by
        rw [List.length_cons, List.length_cons]
        omega
      obtain ⟨t, rfl, tail⟩ := ih s.length shorter more rfl
      -- The four digits were passed over as characters of the string.
      obtain ⟨x, y, z, w, more, text, digits⟩ := eq_cons_of_readHex read
      have each := digits
      simp only [List.forall_mem_cons] at each
      obtain ⟨hx, hy, hz, hw, -⟩ := each
      obtain ⟨t, rfl, tail, text⟩ := tail.of_isHex text hx
      obtain ⟨t, rfl, tail, text⟩ := tail.of_isHex text hy
      obtain ⟨t, rfl, tail, text⟩ := tail.of_isHex text hz
      obtain ⟨t, rfl, tail, text⟩ := tail.of_isHex text hw
      exact ⟨_, rfl, .code digits tail⟩

/-! ## Numbers -/

/-- Digits are passed over up to a character that is none. -/
theorem dropWhile_isDigit_append {digits rest : List Char}
    (all : ∀ d ∈ digits, isDigit d = true) (ended : ∀ c ∈ rest.head?, isDigit c = false) :
    (digits ++ rest).dropWhile isDigit = rest := by
  rw [List.dropWhile_append_of_pos all]
  cases rest with
  | nil => rfl
  | cons c rest => exact List.dropWhile_cons_of_neg (by simp [ended c rfl])

/-- What is passed over are digits. -/
theorem exists_of_dropWhile_isDigit (s : List Char) :
    ∃ digits, s = digits ++ s.dropWhile isDigit ∧ ∀ d ∈ digits, isDigit d = true :=
  ⟨s.takeWhile isDigit, List.takeWhile_append_dropWhile.symm,
    fun _ mem => List.mem_takeWhile_imp mem⟩

/-- A digit is none of the other characters that a number may begin or go on with. -/
theorem ne_of_isDigit {c : Char} (h : isDigit c = true) :
    c ≠ '+' ∧ c ≠ '-' ∧ c ≠ '.' ∧ c ≠ 'e' ∧ c ≠ 'E' := by
  refine ⟨?_, ?_, ?_, ?_, ?_⟩ <;> rintro rfl <;> revert h <;> decide

/-- An exponent is passed over. -/
theorem Exponent.skip {s rest : List Char} (h : Exponent s) (ended : Delimited rest) :
    skipExponentPart (s ++ rest) = .ok rest := by
  cases h with
  | none =>
    cases rest with
    | nil => rfl
    | cons c rest =>
      obtain ⟨-, -, lower, upper⟩ := ended c rfl
      simp [skipExponentPart, lower, upper]
  | letter letter signed digits =>
    cases digits with
    | @mk d s first others =>
      have end' : (s ++ rest).dropWhile isDigit = rest :=
        dropWhile_isDigit_append others fun c hc => (ended c hc).1
      have other := ne_of_isDigit first
      simp only [List.mem_cons, List.not_mem_nil, or_false] at signed
      rcases signed with rfl | rfl | rfl <;>
        simp [skipExponentPart, skipExponent, letter, first, other, end']

/-- What is passed over after the letter of an exponent are digits, with a sign or without. -/
theorem exists_of_skipExponent {s rest : List Char} (h : skipExponent s = .ok rest) :
    ∃ sign ds, s = sign ++ (ds ++ rest) ∧ sign ∈ [[], ['+'], ['-']] ∧ Digits ds := by
  have digits : ∀ {c : Char} {more : List Char} {fault : Fault},
      (if isDigit c then .ok (more.dropWhile isDigit) else .error fault) = Except.ok rest →
      ∃ ds, c :: more = ds ++ rest ∧ Digits ds := by
    intro c more fault h
    split at h
    · next first =>
      obtain ⟨ds, split, others⟩ := exists_of_dropWhile_isDigit more
      rw [Except.ok.inj h] at split
      exact ⟨c :: ds, by rw [split, List.cons_append], .mk first others⟩
    · cases h
  rw [skipExponent.eq_def] at h
  cases s with
  | nil => cases h
  | cons d s =>
    simp only at h
    by_cases sign : (decide (d = '+') || decide (d = '-')) = true
    · rw [if_pos sign] at h
      cases s with
      | nil => cases h
      | cons e s =>
        obtain ⟨ds, text, found⟩ := digits h
        exact ⟨[d], ds, by rw [text]; rfl, by simpa using sign, found⟩
    · rw [if_neg sign] at h
      obtain ⟨ds, text, found⟩ := digits h
      exact ⟨[], ds, text, by simp, found⟩

/-- What is passed over is an exponent. -/
theorem exists_of_skipExponentPart {s rest : List Char} (h : skipExponentPart s = .ok rest) :
    ∃ e, s = e ++ rest ∧ Exponent e := by
  cases s with
  | nil =>
    obtain rfl := Except.ok.inj h
    exact ⟨[], rfl, .none⟩
  | cons c s =>
    rw [skipExponentPart] at h
    split at h
    · next letter =>
      obtain ⟨sign, ds, rfl, signed, digits⟩ := exists_of_skipExponent h
      exact ⟨c :: (sign ++ ds), by simp, .letter (by simpa using letter) signed digits⟩
    · obtain rfl := Except.ok.inj h
      exact ⟨[], rfl, .none⟩

/-- After the digits of a number there is none. -/
theorem Exponent.head?_append {s rest : List Char} (h : Exponent s) (ended : Delimited rest) :
    ∀ c ∈ (s ++ rest).head?, isDigit c = false ∧ c ≠ '.' := by
  cases h with
  | none => exact fun c hc => ⟨(ended c hc).1, (ended c hc).2.1⟩
  | letter letter =>
    intro c hc
    obtain rfl := Option.some.inj hc
    rcases letter with rfl | rfl <;> decide

/-- A fraction and an exponent are passed over. -/
theorem Fraction.skip {fraction exponent rest : List Char} (h : Fraction fraction)
    (he : Exponent exponent) (ended : Delimited rest) :
    skipFractionPart (fraction ++ (exponent ++ rest)) = .ok rest := by
  have head := he.head?_append ended
  have skipped := he.skip ended
  cases h with
  | none =>
    rw [List.nil_append]
    cases text : exponent ++ rest with
    | nil =>
      rw [text] at skipped
      exact skipped
    | cons c s =>
      rw [text] at skipped head
      rw [skipFractionPart.eq_def]
      simp only [(head c rfl).2, if_false, skipped]
  | point digits =>
    cases digits with
    | mk first others =>
      have end' := dropWhile_isDigit_append others fun c hc => (head c hc).1
      simp [skipFractionPart, first, end', skipped]

/-- What is passed over are a fraction and an exponent. -/
theorem exists_of_skipFractionPart {s rest : List Char} (h : skipFractionPart s = .ok rest) :
    ∃ f e, s = f ++ (e ++ rest) ∧ Fraction f ∧ Exponent e := by
  have without : skipExponentPart s = .ok rest →
      ∃ f e, s = f ++ (e ++ rest) ∧ Fraction f ∧ Exponent e := by
    intro h
    obtain ⟨e, text, he⟩ := exists_of_skipExponentPart h
    exact ⟨[], e, text, .none, he⟩
  cases s with
  | nil => exact without h
  | cons c s =>
    rw [skipFractionPart.eq_def] at h
    simp only at h
    split at h
    · next point =>
      subst point
      cases s with
      | nil => cases h
      | cons d s =>
        simp only at h
        split at h
        · next first =>
          obtain ⟨digits, split, others⟩ := exists_of_dropWhile_isDigit s
          obtain ⟨e, text, he⟩ := exists_of_skipExponentPart h
          rw [text] at split
          exact ⟨'.' :: d :: digits, e, by rw [split]; rfl, .point (.mk first others), he⟩
        · cases h
    · exact without h

/-- **`skipNumber` passes over a number**, if nothing follows that could continue it. -/
theorem Unsigned.skip {s rest : List Char} (h : Unsigned s) (ended : Delimited rest) :
    skipNumber (s ++ rest) = .ok rest := by
  cases h with
  | @mk whole fraction exponent hw hf he =>
    have skipped := hf.skip he ended
    have head : ∀ c ∈ (fraction ++ (exponent ++ rest)).head?, isDigit c = false := by
      cases hf with
      | none => exact fun c hc => (he.head?_append ended c hc).1
      | point =>
        intro c hc
        obtain rfl := Option.some.inj hc
        rfl
    rw [List.append_assoc, List.append_assoc]
    generalize fraction ++ (exponent ++ rest) = more at skipped head
    cases hw with
    | zero =>
      cases more with
      | nil => simpa [skipNumber, skipFractionPart] using skipped
      | cons c more => simp [skipNumber, head c rfl, skipped]
    | positive first digits =>
      cases digits with
      | mk digit others =>
        have end' := dropWhile_isDigit_append others head
        simp [skipNumber, first, digit, end', skipped]

/-- **What `skipNumber` passes over is a number.** -/
theorem exists_of_skipNumber {s rest : List Char} (h : skipNumber s = .ok rest) :
    ∃ t, s = t ++ rest ∧ Unsigned t := by
  cases s with
  | nil => cases h
  | cons c s =>
    rw [skipNumber.eq_def] at h
    simp only at h
    split at h
    · next zero =>
      subst zero
      have whole : skipFractionPart s = .ok rest → ∃ t, '0' :: s = t ++ rest ∧ Unsigned t := by
        intro h
        obtain ⟨f, e, text, hf, he⟩ := exists_of_skipFractionPart h
        exact ⟨_, by rw [text, ← List.append_assoc f]; rfl, .mk .zero hf he⟩
      cases s with
      | nil => exact whole h
      | cons d s =>
        simp only at h
        split at h
        · cases h
        · exact whole h
    · next other =>
      split at h
      · next first =>
        obtain ⟨digits, split, others⟩ := exists_of_dropWhile_isDigit s
        obtain ⟨f, e, text, hf, he⟩ := exists_of_skipFractionPart h
        rw [text] at split
        refine ⟨_, ?_, .mk (.positive other (.mk first others)) hf he⟩
        rw [split]
        simp
      · cases h

/-! ## Names -/

/-- A name and its colon are passed over. -/
theorem Key.skip {frame : Frame} {s : List Char} (h : Key frame s) (rest : List Char) :
    skipKey frame (s ++ rest) = .ok rest := by
  cases h with
  | nothing => rfl
  | @name before s after hb string ha =>
    have passed := string.skipString_append (after ++ ':' :: rest)
    have quote := skipSpace_append_cons hb (c := '"') rfl (s ++ (after ++ ':' :: rest))
    have colon := skipSpace_append_cons ha (c := ':') rfl rest
    simp only [List.append_assoc, List.cons_append, List.nil_append]
    simp only [skipKey, quote, passed, colon, bind, Except.bind, if_true]

/-- What is passed over are a name and its colon. -/
theorem exists_of_skipKey {frame : Frame} {s rest : List Char} (h : skipKey frame s = .ok rest) :
    ∃ k, s = k ++ rest ∧ Key frame k := by
  cases frame with
  | list => exact ⟨[], Except.ok.inj h, .nothing⟩
  | object =>
    obtain ⟨before, text, hb⟩ := exists_blanks_of_skipSpace (s := s)
    rw [skipKey] at h
    split at h
    · cases h
    · next c t front =>
      split at h
      · next quote =>
        obtain ⟨u, passed, found⟩ := Except.bind_eq_ok.mp h
        obtain ⟨after, text', ha⟩ := exists_blanks_of_skipSpace (s := u)
        obtain ⟨name, rfl, string⟩ := exists_of_skipString passed
        split at found
        · cases found
        · next d v back =>
          split at found
          · next colon =>
            obtain rfl := Except.ok.inj found
            rw [front, quote, text', back, colon] at text
            exact ⟨_, by rw [text]; simp, .name hb string ha⟩
          · cases found
      · cases h

/-! ## Values -/

/-- A blank ends a number. -/
theorem delimits_of_isSpace {c : Char} (h : isSpace c = true) :
    isDigit c = false ∧ c ≠ '.' ∧ c ≠ 'e' ∧ c ≠ 'E' := by
  rcases isSpace_iff.mp h with rfl | rfl | rfl | rfl <;> decide

/-- What comes after blanks and is no part of a number ends a number. -/
theorem delimited_blanks {blanks : List Char} (hb : Blanks blanks) {c : Char}
    (ends : c = ',' ∨ c = ']' ∨ c = '\x7d') (rest : List Char) :
    Delimited (blanks ++ c :: rest) := by
  intro d hd
  cases blanks with
  | nil =>
    obtain rfl := Option.some.inj hd
    rcases ends with rfl | rfl | rfl <;> decide
  | cons b blanks =>
    obtain rfl := Option.some.inj hd
    exact delimits_of_isSpace (hb b List.mem_cons_self)

/-- Frames are closed by a bracket or a brace. -/
theorem Frame.close_cases (frame : Frame) : frame.close = ',' ∨ frame.close = ']' ∨
    frame.close = '\x7d' := by
  cases frame <;> simp [Frame.close]

/-- What goes on after a value cannot continue it. -/
theorem Derives.delimited {frame : Frame} {s : List Char} (h : Derives (.rest frame true) s)
    (rest : List Char) : Delimited (s ++ rest) := by
  generalize part : Part.rest frame true = p at h
  cases h with
  | scalar => cases part
  | string => cases part
  | compound => cases part
  | close hb =>
    rw [List.append_assoc]
    exact delimited_blanks hb (Frame.close_cases _) _
  | item hb =>
    obtain ⟨rfl, rfl⟩ := Part.rest.inj part
    rw [separator, List.append_assoc]
    exact delimited_blanks hb (.inl rfl) _

/-- The characters of digits. -/
theorem Digits.all {s : List Char} (h : Digits s) : ∀ c ∈ s, isDigit c = true := by
  cases h with
  | mk first others => exact List.forall_mem_cons.mpr ⟨first, others⟩

/-- **The characters of scalars** are digits, letters of words, signs, points and letters of
exponents. -/
theorem Scalar.characters {s : List Char} (h : Scalar s) :
    ∀ c ∈ s, isDigit c = true ∨ c ∈ "aeflnrstuE+-.".toList := by
  have number : ∀ {s}, Unsigned s → ∀ c ∈ s, isDigit c = true ∨ c ∈ "aeflnrstuE+-.".toList := by
    intro s h
    cases h with
    | mk hw hf he =>
      refine List.forall_mem_append.mpr ⟨?_, List.forall_mem_append.mpr ⟨?_, ?_⟩⟩
      · cases hw with
        | zero => exact List.forall_mem_singleton.mpr (.inl rfl)
        | positive _ digits => exact fun c hc => .inl (digits.all c hc)
      · cases hf with
        | none => exact nofun
        | point digits =>
          exact List.forall_mem_cons.mpr ⟨.inr (by decide), fun c hc => .inl (digits.all c hc)⟩
      · cases he with
        | none => exact nofun
        | letter letter signed digits =>
          refine List.forall_mem_cons.mpr ⟨?_, List.forall_mem_append.mpr ⟨?_, ?_⟩⟩
          · rcases letter with rfl | rfl <;> exact .inr (by decide)
          · simp only [List.mem_cons, List.not_mem_nil, or_false] at signed
            rcases signed with rfl | rfl | rfl <;> simp
          · exact fun c hc => .inl (digits.all c hc)
  cases h with
  | word word =>
    simp only [List.mem_cons, List.not_mem_nil, or_false] at word
    rcases word with rfl | rfl | rfl <;> simp
  | unsigned unsigned => exact number unsigned
  | signed unsigned => exact List.forall_mem_cons.mpr ⟨.inr (by decide), number unsigned⟩

/-- How a scalar begins. -/
theorem Scalar.opening {s : List Char} (h : Scalar s) :
    ∃ c t, s = c :: t ∧ isSpace c = false ∧ c ≠ ']' ∧ c ≠ '"' ∧ c ≠ '[' ∧ c ≠ '{' := by
  have digit : ∀ {c}, isDigit c = true →
      isSpace c = false ∧ c ≠ ']' ∧ c ≠ '"' ∧ c ≠ '[' ∧ c ≠ '{' := by
    intro c h
    refine ⟨isSpace_of_isDigit h, ?_, ?_, ?_, ?_⟩ <;> rintro rfl <;> cases h
  cases h with
  | word word =>
    simp only [List.mem_cons, List.not_mem_nil, or_false] at word
    rcases word with rfl | rfl | rfl <;> exact ⟨_, _, rfl, by decide⟩
  | signed => exact ⟨_, _, rfl, by decide⟩
  | unsigned number =>
    cases number with
    | mk hw =>
      cases hw with
      | zero => exact ⟨_, _, rfl, digit rfl⟩
      | positive _ digits =>
        cases digits with
        | mk first => exact ⟨_, _, rfl, digit first⟩

/-- A value begins with something that is neither a blank nor the end of an array. -/
theorem Derives.opening {s : List Char} (h : Derives .value s) :
    ∃ c t, s = c :: t ∧ isSpace c = false ∧ c ≠ ']' := by
  generalize part : Part.value = p at h
  cases h with
  | scalar scalar =>
    obtain ⟨c, t, text, visible, other, -⟩ := scalar.opening
    exact ⟨c, t, text, visible, other⟩
  | string => exact ⟨_, _, rfl, by decide⟩
  | @compound frame => cases frame <;> exact ⟨_, _, rfl, by decide⟩
  | close => cases part
  | item => cases part

/-- What follows the opening of a frame ends with its closing bracket. -/
theorem Derives.exists_close {frame : Frame} {comma : Bool} {s : List Char}
    (h : Derives (.rest frame comma) s) : ∃ inner, s = inner ++ [frame.close] := by
  generalize same : Part.rest frame comma = part at h
  induction h generalizing comma with
  | scalar => cases same
  | string => cases same
  | compound => cases same
  | @close frame comma blanks hb =>
    obtain ⟨rfl, rfl⟩ := Part.rest.inj same
    exact ⟨blanks, rfl⟩
  | @item frame comma before key blanks value s hb hk hb' hv rest ihv ihs =>
    obtain ⟨rfl, rfl⟩ := Part.rest.inj same
    obtain ⟨inner, rfl⟩ := ihs rfl
    exact ⟨before ++ (separator comma ++ (key ++ (blanks ++ (value ++ inner)))), by
      simp only [List.append_assoc]⟩

/-- Blanks before a value are passed over. -/
theorem skipFrom_blanks (fuel : Nat) (frames : List Frame) {blanks : List Char}
    (hb : Blanks blanks) (s : List Char) :
    skipFrom (fuel + 1) frames (blanks ++ s) = skipFrom (fuel + 1) frames s := by
  rw [skipFrom, skipFrom, skipSpace_append hb]

/-- A scalar is passed over. -/
theorem Scalar.skip {s rest : List Char} (h : Scalar s) (ended : Delimited rest) (fuel : Nat)
    (frames : List Frame) :
    skipFrom (fuel + 1) frames (s ++ rest) = skipAfter fuel frames true rest := by
  have word : ∀ w, readWord w (w ++ rest) = .ok rest := fun w => readWord_append w rest
  cases h with
  | word known =>
    simp only [List.mem_cons, List.not_mem_nil, or_false] at known
    rcases known with rfl | rfl | rfl
    · simpa [skipFrom, skipSpace_cons (c := 'n') rfl, bind, Except.bind] using
        congrArg (· >>= skipAfter fuel frames true) (word ['u', 'l', 'l'])
    · simpa [skipFrom, skipSpace_cons (c := 't') rfl, bind, Except.bind] using
        congrArg (· >>= skipAfter fuel frames true) (word ['r', 'u', 'e'])
    · simpa [skipFrom, skipSpace_cons (c := 'f') rfl, bind, Except.bind] using
        congrArg (· >>= skipAfter fuel frames true) (word ['a', 'l', 's', 'e'])
  | signed number =>
    have passed := number.skip ended
    rw [List.cons_append]
    simp [skipFrom, skipSpace_cons (c := '-') rfl, passed, bind, Except.bind]
  | unsigned number =>
    have passed := number.skip ended
    have begins : ∃ c t, s = c :: t ∧ isDigit c = true := by
      cases number with
      | mk hw =>
        cases hw with
        | zero => exact ⟨_, _, rfl, rfl⟩
        | positive _ digits =>
          cases digits with
          | mk first => exact ⟨_, _, rfl, first⟩
    obtain ⟨c, t, rfl, digit⟩ := begins
    have other : c ≠ 'n' ∧ c ≠ 't' ∧ c ≠ 'f' ∧ c ≠ '-' := by
      refine ⟨?_, ?_, ?_, ?_⟩ <;> rintro rfl <;> cases digit
    rw [List.cons_append] at passed ⊢
    rw [skipFrom, skipSpace_cons (isSpace_of_isDigit digit)]
    simp [other, digit, passed, bind, Except.bind]

/-! ## The scanner passes over what the grammar derives -/

/-- What it means that the scanner passes over a part, at the expense of at most two units of fuel
a character; one more unit is left over where a value was. -/
def Part.Passed (s : List Char) : Part → Prop
  | .value => ∃ n, n + 2 ≤ 2 * s.length ∧ ∀ fuel frames rest, Delimited rest →
      skipFrom (n + fuel + 1) frames (s ++ rest) = skipAfter fuel frames true rest
  | .rest frame comma => ∃ n, n ≤ 2 * s.length ∧ ∀ fuel frames rest,
      skipAfter (n + fuel) (frame :: frames) comma (s ++ rest) = skipAfter fuel frames true rest

/-- A frame goes on with a value that is not the first one. -/
theorem skipAfter_comma {frame : Frame} {before key blanks value : List Char} (hb : Blanks before)
    (hk : Key frame key) (hb' : Blanks blanks) (fuel : Nat) (frames : List Frame) :
    skipAfter (fuel + 2) (frame :: frames) true
        (before ++ (separator true ++ (key ++ (blanks ++ value)))) =
      skipFrom (fuel + 1) (frame :: frames) value := by
  have front := skipSpace_append_cons hb (c := ',') rfl (key ++ (blanks ++ value))
  rw [separator, List.singleton_append, skipAfter, front]
  simp [hk.skip, bind, Except.bind, skipFrom_blanks _ _ hb']

/-- A frame begins with a value. -/
theorem skipAfter_first {frame : Frame} {before key blanks value rest : List Char}
    (hb : Blanks before) (hk : Key frame key) (hb' : Blanks blanks) (hv : Derives .value value)
    (fuel : Nat) (frames : List Frame) :
    skipAfter (fuel + 2) (frame :: frames) false
        (before ++ (separator false ++ (key ++ (blanks ++ (value ++ rest))))) =
      skipFrom (fuel + 1) (frame :: frames) (value ++ rest) := by
  cases hk with
  | nothing =>
    obtain ⟨c, t, rfl, visible, other⟩ := hv.opening
    have front : skipSpace (before ++ (blanks ++ c :: (t ++ rest))) = c :: (t ++ rest) := by
      rw [skipSpace_append hb, skipSpace_append_cons hb' visible]
    simp only [separator, List.nil_append, List.cons_append]
    rw [skipAfter, front]
    simp [other, Frame.close, skipKey, bind, Except.bind]
  | @name blanks' name after hn string ha =>
    -- The name is all that is looked at before the value.
    have named : Key .object ([] ++ '"' :: (name ++ (after ++ [':']))) := .name nofun string ha
    have passed := named.skip (blanks ++ (value ++ rest))
    simp only [List.append_assoc, List.cons_append, List.nil_append] at passed
    have front := skipSpace_append_cons hn (c := '"') rfl
      (name ++ (after ++ ':' :: (blanks ++ (value ++ rest))))
    simp only [separator, List.nil_append, List.append_assoc, List.cons_append]
    rw [skipAfter, skipSpace_append hb, front]
    simp [Frame.close, passed, bind, Except.bind, skipFrom_blanks _ _ hb']

/-- **`skipFrom` passes over what the grammar derives.** -/
theorem Derives.passed {part : Part} {s : List Char} (h : Derives part s) : part.Passed s := by
  induction h with
  | @scalar s scalar =>
    refine ⟨0, ?_, fun fuel frames rest ended => ?_⟩
    · obtain ⟨c, t, rfl, -⟩ := scalar.opening
      rw [List.length_cons]
      omega
    · rw [Nat.zero_add, scalar.skip ended]
  | @string s string =>
    refine ⟨0, by rw [List.length_cons]; omega, fun fuel frames rest _ => ?_⟩
    rw [Nat.zero_add, List.cons_append, skipFrom, skipSpace_cons rfl]
    simp [isDigit, string.skipString_append, bind, Except.bind]
  | @compound frame s _ ih =>
    obtain ⟨n, enough, passed⟩ := ih
    refine ⟨n, by rw [List.length_cons]; omega, fun fuel frames rest _ => ?_⟩
    rw [← passed fuel frames rest, List.cons_append]
    cases frame <;> simp [Frame.opening, skipFrom, skipSpace_cons, isSpace, isDigit]
  | @close frame comma blanks hb =>
    refine ⟨1, by rw [List.length_append, List.length_singleton]; omega, fun fuel frames rest => ?_⟩
    have visible : isSpace frame.close = false := by cases frame <;> rfl
    have other : frame.close ≠ ',' := by cases frame <;> decide
    rw [Nat.add_comm, List.append_assoc, List.singleton_append, skipAfter,
      skipSpace_append_cons hb visible]
    simp [other]
  | @item frame comma before key blanks value s hb hk hb' hv rest ihv ihs =>
    obtain ⟨n, enough, passed⟩ := ihv
    obtain ⟨m, enough', passed'⟩ := ihs
    refine ⟨n + m + 2, by simp only [List.length_append]; omega, fun fuel frames more => ?_⟩
    have rearranged : before ++ (separator comma ++ (key ++ (blanks ++ (value ++ s)))) ++ more =
        before ++ (separator comma ++ (key ++ (blanks ++ (value ++ (s ++ more))))) := by
      simp only [List.append_assoc]
    have fuels : n + m + 2 + fuel = n + (m + fuel) + 2 := by omega
    rw [rearranged, fuels, ← passed' fuel frames more, ← passed (m + fuel) (frame :: frames)
      (s ++ more) (rest.delimited more)]
    cases comma with
    | true => exact skipAfter_comma hb hk hb' _ _
    | false => exact skipAfter_first hb hk hb' hv _ _

/-! ## What the scanner passes over the grammar derives -/

/-- Whether a text closes the open frames, the innermost first. -/
inductive Closes : List Frame → Bool → List Char → Prop where
  /-- No frame is open. -/
  | done {comma : Bool} : Closes [] comma []
  /-- The innermost frame is closed, then the others. -/
  | frame {frame : Frame} {frames : List Frame} {comma : Bool} {s t : List Char}
    (inner : Derives (.rest frame comma) s) (outer : Closes frames true t) :
    Closes (frame :: frames) comma (s ++ t)

/-- A frame that goes on with a name and a value is closed by what closes it after the value. -/
theorem Closes.item {frame : Frame} {frames : List Frame} {comma : Bool}
    {before key blanks value t : List Char} (hb : Blanks before) (hk : Key frame key)
    (hb' : Blanks blanks) (hv : Derives .value value) (h : Closes (frame :: frames) true t) :
    Closes (frame :: frames) comma
      (before ++ (separator comma ++ (key ++ (blanks ++ (value ++ t))))) := by
  cases h with
  | @frame _ _ _ s t inner outer =>
    have longer : Derives (.rest frame comma)
        (before ++ (separator comma ++ (key ++ (blanks ++ (value ++ s))))) :=
      .item hb hk hb' hv inner
    simpa only [List.append_assoc] using Closes.frame longer outer

/-- **How the scanner goes on from where a value has to begin**: after a value that opens no frame,
or within the frame that is opened. -/
theorem skipFrom_eq_ok {fuel : Nat} {frames : List Frame} {s rest : List Char}
    (h : skipFrom (fuel + 1) frames s = .ok rest) :
    (∃ value u, skipSpace s = value ++ u ∧ Derives .value value ∧
        skipAfter fuel frames true u = .ok rest) ∨
      ∃ frame u, skipSpace s = Frame.opening frame :: u ∧
        skipAfter fuel (frame :: frames) false u = .ok rest := by
  rw [skipFrom] at h
  split at h
  · cases h
  · next c s' front =>
    rw [front]
    -- The branches stand in the order in which the scanner asks for the first character.
    split at h
    · next first =>
      obtain ⟨u, passed, after⟩ := Except.bind_eq_ok.mp h
      rw [first, eq_append_of_readWord passed]
      exact .inl ⟨"null".toList, u, rfl, .scalar (.word (by simp)), after⟩
    split at h
    · next first =>
      obtain ⟨u, passed, after⟩ := Except.bind_eq_ok.mp h
      rw [first, eq_append_of_readWord passed]
      exact .inl ⟨"true".toList, u, rfl, .scalar (.word (by simp)), after⟩
    split at h
    · next first =>
      obtain ⟨u, passed, after⟩ := Except.bind_eq_ok.mp h
      rw [first, eq_append_of_readWord passed]
      exact .inl ⟨"false".toList, u, rfl, .scalar (.word (by simp)), after⟩
    split at h
    · next first =>
      obtain ⟨u, passed, after⟩ := Except.bind_eq_ok.mp h
      obtain ⟨number, rfl, unsigned⟩ := exists_of_skipNumber passed
      rw [first]
      exact .inl ⟨'-' :: number, u, rfl, .scalar (.signed unsigned), after⟩
    split at h
    · obtain ⟨u, passed, after⟩ := Except.bind_eq_ok.mp h
      obtain ⟨number, same, unsigned⟩ := exists_of_skipNumber passed
      exact .inl ⟨number, u, same, .scalar (.unsigned unsigned), after⟩
    split at h
    · next first =>
      obtain ⟨u, passed, after⟩ := Except.bind_eq_ok.mp h
      obtain ⟨tail, rfl, string⟩ := exists_of_skipString passed
      rw [first]
      exact .inl ⟨'"' :: tail, u, rfl, .string string, after⟩
    split at h
    · next first => exact .inr ⟨.list, s', by rw [first]; rfl, h⟩
    split at h
    · next first => exact .inr ⟨.object, s', by rw [first]; rfl, h⟩
    · cases h

/-- **How the scanner goes on within a frame**: after its closing, or with another value. -/
theorem skipAfter_eq_ok {fuel : Nat} {frame : Frame} {frames : List Frame} {comma : Bool}
    {s rest : List Char} (h : skipAfter (fuel + 1) (frame :: frames) comma s = .ok rest) :
    (∃ u, skipSpace s = frame.close :: u ∧ skipAfter fuel frames true u = .ok rest) ∨
      ∃ key u, skipSpace s = separator comma ++ (key ++ u) ∧ Key frame key ∧
        skipFrom fuel (frame :: frames) u = .ok rest := by
  rw [skipAfter] at h
  split at h
  · cases h
  · next c s' front =>
    rw [front]
    split at h
    · next separated =>
      rw [Bool.and_eq_true, decide_eq_true_eq] at separated
      obtain ⟨rfl, rfl⟩ := separated
      obtain ⟨u, passed, more⟩ := Except.bind_eq_ok.mp h
      obtain ⟨key, rfl, hk⟩ := exists_of_skipKey passed
      exact .inr ⟨key, u, rfl, hk, more⟩
    split at h
    · next closing => exact .inl ⟨s', by rw [closing], h⟩
    split at h
    · cases h
    · next first =>
      obtain rfl : comma = false := by simpa using first
      obtain ⟨u, passed, more⟩ := Except.bind_eq_ok.mp h
      obtain ⟨key, same, hk⟩ := exists_of_skipKey passed
      exact .inr ⟨key, u, same, hk, more⟩

/-- **What the scanner passes over** is a value and what closes the open frames, or only the
latter. -/
theorem exists_of_skip (fuel : Nat) :
    (∀ frames s rest, skipFrom fuel frames s = .ok rest →
      ∃ before value t, s = before ++ (value ++ (t ++ rest)) ∧ Blanks before ∧
        Derives .value value ∧ Closes frames true t) ∧
    ∀ frames comma s rest, skipAfter fuel frames comma s = .ok rest →
      ∃ t, s = t ++ rest ∧ Closes frames comma t := by
  induction fuel with
  | zero => exact ⟨nofun, nofun⟩
  | succ fuel ih =>
    obtain ⟨ihFrom, ihAfter⟩ := ih
    refine ⟨fun frames s rest h => ?_, fun frames comma s rest h => ?_⟩
    · obtain ⟨before, text, hb⟩ := exists_blanks_of_skipSpace (s := s)
      rcases skipFrom_eq_ok h with ⟨value, u, front, hv, after⟩ | ⟨frame, u, front, inside⟩
      · obtain ⟨t, rfl, closes⟩ := ihAfter _ _ _ _ after
        exact ⟨before, value, t, text.trans (congrArg _ front), hb, hv, closes⟩
      · -- The frame that is opened is closed first.
        obtain ⟨t, rfl, closes⟩ := ihAfter _ _ _ _ inside
        cases closes with
        | @frame _ _ _ s t inner outer =>
          rw [List.append_assoc, ← List.cons_append] at front
          exact ⟨before, _, t, text.trans (congrArg _ front), hb, .compound inner, outer⟩
    · cases frames with
      | nil => exact ⟨[], Except.ok.inj h, .done⟩
      | cons frame frames =>
        obtain ⟨before, text, hb⟩ := exists_blanks_of_skipSpace (s := s)
        rcases skipAfter_eq_ok h with ⟨u, front, after⟩ | ⟨key, u, front, hk, more⟩
        · obtain ⟨t, rfl, closes⟩ := ihAfter _ _ _ _ after
          refine ⟨_, ?_, .frame (.close hb) closes⟩
          rw [text, front]
          simp
        · obtain ⟨blanks, value, t, rfl, hb', hv, closes⟩ := ihFrom _ _ _ more
          refine ⟨_, ?_, .item hb hk hb' hv closes⟩
          rw [text, front]
          simp

/-- **`wellFormed` accepts exactly the texts of the grammar.** -/
theorem wellFormed_iff {s : List Char} : wellFormed s = true ↔ IsText s := by
  rw [wellFormed]
  constructor
  · intro h
    split at h
    · next rest passed =>
      obtain ⟨before, value, t, rfl, hb, hv, closes⟩ := (exists_of_skip _).1 _ _ _ passed
      cases closes
      refine ⟨before, value, rest, rfl, hb, hv, ?_⟩
      rw [← skipSpace_eq_nil]
      simpa using h
    · cases h
  · rintro ⟨before, value, after, rfl, hb, hv, ha⟩
    obtain ⟨n, enough, passed⟩ := hv.passed
    -- Blanks after the value do not continue it.
    have ended : Delimited after := by
      cases after with
      | nil => exact nofun
      | cons c after =>
        intro d hd
        obtain rfl := Option.some.inj hd
        exact delimits_of_isSpace (ha c List.mem_cons_self)
    have fuels : ∃ k, 2 * (before ++ (value ++ after)).length + 2 = n + (k + 1) + 1 := by
      refine ⟨2 * (before ++ (value ++ after)).length - n, ?_⟩
      simp only [List.length_append]
      omega
    obtain ⟨k, fuel⟩ := fuels
    have skipped : skipValue (before ++ (value ++ after)) = .ok after := by
      rw [skipValue, fuel, skipFrom_blanks _ _ hb, passed _ _ _ ended]
      rfl
    rw [skipped]
    simpa using skipSpace_eq_nil.mpr ha

end Colloquy.Json
