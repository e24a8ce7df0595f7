import Colloquy.Proofs.Calculator.Grammar
import Colloquy.Proofs.Except
import Mathlib.Data.List.Chain
import Mathlib.Data.List.TakeWhile

/-! # The tokens of a text

The lexer finds tokens that spell the text (`spelled_of_lex`).  It finds the tokens that a text was
spelled from unless two of them are numbers in a row, which may run together (`lex_of_spelled`); no
expression is written with such numbers (`Expr.Written.apart`). -/

namespace Colloquy.Calculator

/-! ## Characters -/

/-- The characters of numerals are the digits and the point. -/
theorem isNumeralChar_iff {c : Char} : isNumeralChar c = true ↔ c.isDigit = true ∨ c = '.' := by
  rw [isNumeralChar, Bool.or_eq_true, decide_eq_true_eq]

/-- A blank stands in no numeral. -/
theorem isNumeralChar_of_isBlank {c : Char} (blank : Text.isBlank c = true) :
    isNumeralChar c = false := by
  have code : ∀ d : Char, c = d ↔ c.toNat = d.toNat := fun d =>
    ⟨fun h => by rw [h], fun h => Char.toNat_inj.mp h⟩
  simp only [Text.isBlank, Bool.or_eq_true, Bool.and_eq_true, decide_eq_true_eq, beq_iff_eq]
    at blank
  simp only [isNumeralChar, Char.isDigit, Bool.or_eq_false_iff, Bool.and_eq_false_iff,
    decide_eq_false_iff_not, code, ge_iff_le, UInt32.le_iff_toNat_le]
  have value : c.val.toNat = c.toNat := rfl
  have zero : '0'.val.toNat = 48 := rfl
  have nine : '9'.val.toNat = 57 := rfl
  have point : '.'.toNat = 46 := rfl
  omega

/-- The character of an operator is that of no other. -/
theorem Operator.ofChar?_eq_some {c : Char} {o : Operator} :
    Operator.ofChar? c = some o ↔ c = o.symbol := by
  constructor
  · intro h
    rw [ofChar?] at h
    split_ifs at h with plus minus star slash percent caret <;>
      (obtain rfl := Option.some.inj h; assumption)
  · rintro rfl
    cases o <;> rfl

namespace Token

/-- The token of a character is spelled by it. -/
theorem spelled_of_ofChar? {c : Char} {t : Token} (h : ofChar? c = some t) : t.Spelled [c] := by
  rw [ofChar?] at h
  split_ifs at h with opening closing
  · obtain rfl := Option.some.inj h
    exact opening ▸ .opening
  · obtain rfl := Option.some.inj h
    exact closing ▸ .closing
  · obtain ⟨o, symbol, rfl⟩ := Option.map_eq_some_iff.mp h
    exact Operator.ofChar?_eq_some.mp symbol ▸ .op o

/-- Whether a token is a number. -/
def isNumber : Token → Bool
  | number _ => true
  | _ => false

/-- A token that is no number is spelled by one character, which is no blank and stands in no
numeral. -/
theorem Spelled.single {t : Token} {text : List Char} (h : t.Spelled text)
    (other : t.isNumber = false) :
    ∃ c, text = [c] ∧ isNumeralChar c = false ∧ Text.isBlank c = false ∧ ofChar? c = some t := by
  cases h with
  | number => cases other
  | op o => exact ⟨_, rfl, by cases o <;> decide⟩
  | opening => exact ⟨_, rfl, by decide⟩
  | closing => exact ⟨_, rfl, by decide⟩

end Token

/-! ## Numerals -/

namespace Numeral

variable {n : Numeral} {s : List Char}

/-- A numeral is spelled by digits and points. -/
theorem Spelled.isNumeralChar (h : n.Spelled s) : ∀ c ∈ s, isNumeralChar c = true := by
  cases h with
  | whole decimal => exact fun c hc => isNumeralChar_iff.mpr (.inl (decimal c hc))
  | point decimal =>
    intro c hc
    rw [List.mem_append, List.mem_cons] at hc
    rw [isNumeralChar_iff]
    rcases hc with hc | rfl | hc
    · exact .inl (decimal c (List.mem_append_left _ hc))
    · exact .inr rfl
    · exact .inl (decimal c (List.mem_append_right _ hc))

/-- A numeral is spelled by something. -/
theorem Spelled.ne_nil (h : n.Spelled s) : s ≠ [] := by
  cases h with
  | whole _ nonempty => exact nonempty
  | point => simp

/-- `ofChars?` reads a numeral from its spelling. -/
theorem Spelled.ofChars? (h : n.Spelled s) : ofChars? s = some n := by
  cases h with
  | whole decimal nonempty =>
    have taken : s.takeWhile Char.isDigit = s := List.takeWhile_eq_self_iff.mpr decimal
    have left : s.dropWhile Char.isDigit = [] := List.dropWhile_eq_nil_iff.mpr decimal
    simp [Numeral.ofChars?, taken, left, nonempty]
  | @point whole fraction decimal nonempty =>
    obtain ⟨before, after⟩ := List.forall_mem_append.mp decimal
    have taken : (whole ++ '.' :: fraction).takeWhile Char.isDigit = whole := by
      rw [List.takeWhile_append_of_pos before]
      simp
    have left : (whole ++ '.' :: fraction).dropWhile Char.isDigit = '.' :: fraction := by
      rw [List.dropWhile_append_of_pos before]
      simp
    have digits : whole = [] → ¬ fraction = [] := by simpa using nonempty
    simpa [Numeral.ofChars?, taken, left, List.all_eq_true.mpr after] using digits

/-- What is read from digits and points is a numeral that they spell. -/
theorem spelled_of_ofChars? (chars : ∀ c ∈ s, Calculator.isNumeralChar c = true)
    (h : ofChars? s = some n) : n.Spelled s := by
  have before : ∀ c ∈ s.takeWhile Char.isDigit, c.isDigit = true := fun c hc =>
    List.mem_takeWhile_imp hc
  have split : s.takeWhile Char.isDigit ++ s.dropWhile Char.isDigit = s :=
    List.takeWhile_append_dropWhile
  have stop := List.head?_dropWhile_not Char.isDigit s
  rw [ofChars?] at h
  generalize s.takeWhile Char.isDigit = whole at *
  generalize s.dropWhile Char.isDigit = rest at *
  subst split
  cases rest with
  | nil =>
    rw [List.append_nil]
    simp only [List.drop_nil, List.all_nil, Bool.true_and, List.isEmpty_nil, Bool.and_true,
      Bool.not_eq_true', List.isEmpty_eq_false_iff, List.append_nil, List.length_nil] at h
    split_ifs at h with nonempty
    obtain rfl := Option.some.inj h
    exact .whole before nonempty
  | cons c fraction =>
    -- What ends the run of digits is a character of numerals, and so the point.
    have other : c.isDigit = false := stop
    obtain rfl : c = '.' := by
      have char := isNumeralChar_iff.mp (chars c (List.mem_append_right _ List.mem_cons_self))
      rw [other] at char
      exact char.resolve_left Bool.false_ne_true
    simp only [List.drop_succ_cons, List.drop_zero, Bool.and_eq_true, List.all_eq_true,
      Bool.not_eq_true', Bool.and_eq_false_iff, List.isEmpty_eq_false_iff] at h
    split_ifs at h with digits
    obtain rfl := Option.some.inj h
    refine .point (List.forall_mem_append.mpr ⟨before, digits.1⟩) ?_
    rw [Ne, List.append_eq_nil_iff, not_and_or]
    exact digits.2

end Numeral

/-! ## Texts -/

/-- A text that begins with no digit and no point leaves a numeral before it alone. -/
def Parted (s : List Char) : Prop := ∀ c ∈ s.head?, isNumeralChar c = false

/-- What is lexed after a run of digits and points, if it goes on with something else. -/
theorem lexFrom_of_parted {s : List Char} (parted : Parted s) (run : List Char) :
    lexFrom run s = lexFrom.endRun run (lex s) := by
  cases s with
  | nil => rfl
  | cons c s =>
    have other : ¬ isNumeralChar c = true := Bool.eq_false_iff.mp (parted c rfl)
    rw [lex, lexFrom, lexFrom, if_neg other, if_neg other]
    rfl

/-- Digits and points are gathered. -/
theorem lexFrom_append {text : List Char} (chars : ∀ c ∈ text, isNumeralChar c = true)
    (run s : List Char) : lexFrom run (text ++ s) = lexFrom (text.reverse ++ run) s := by
  induction text generalizing run with
  | nil => rfl
  | cons c text ih =>
    obtain ⟨char, chars⟩ := List.forall_mem_cons.mp chars
    rw [List.cons_append, lexFrom, if_pos char, ih chars, List.reverse_cons, List.append_assoc,
      List.singleton_append]

/-- Blanks are passed over. -/
theorem lex_blank {c : Char} (blank : Text.isBlank c = true) (s : List Char) :
    lex (c :: s) = lex s := by
  have other : ¬ isNumeralChar c = true := Bool.eq_false_iff.mp (isNumeralChar_of_isBlank blank)
  rw [lex, lexFrom, if_neg other, if_pos blank]
  rfl

/-- A numeral is a token, if what follows leaves it alone. -/
theorem lex_numeral {n : Numeral} {text s : List Char} (h : n.Spelled text) (parted : Parted s) :
    lex (text ++ s) = (lex s).map (.number n :: ·) := by
  rw [lex, lexFrom_append h.isNumeralChar, List.append_nil, lexFrom_of_parted parted,
    lexFrom.endRun, if_neg (by simpa using h.ne_nil), List.reverse_reverse, h.ofChars?]

/-- Every other token is its character. -/
theorem lex_single {t : Token} {c : Char} (number : isNumeralChar c = false)
    (blank : Text.isBlank c = false) (single : Token.ofChar? c = some t) (s : List Char) :
    lex (c :: s) = (lex s).map (t :: ·) := by
  rw [lex, lexFrom, if_neg (Bool.eq_false_iff.mp number), if_neg (Bool.eq_false_iff.mp blank),
    single]
  rfl

/-- A run and the text after it are spelled by the numeral of the run, if there is a run, and by the
tokens of the text. -/
theorem spelled_of_endRun {run : List Char} {rest : Except SyntaxError (List Token)}
    {ts : List Token} (chars : ∀ c ∈ run, isNumeralChar c = true)
    (h : lexFrom.endRun run rest = .ok ts)
    {s : List Char} (follows : ∀ us, rest = .ok us → Spelled us s) :
    Spelled ts (run.reverse ++ s) := by
  rw [lexFrom.endRun] at h
  split at h
  · next empty =>
    rw [List.isEmpty_iff.mp empty]
    exact follows ts h
  · split at h
    · next n numeral =>
      obtain ⟨us, lexed, rfl⟩ := Except.map_eq_ok.mp h
      refine .token (.number (Numeral.spelled_of_ofChars? ?_ numeral)) (follows us lexed)
      exact fun c hc => chars c (List.mem_reverse.mp hc)
    · cases h

/-- What is lexed from a text after a run of digits and points spells both. -/
theorem spelled_of_lexFrom (run : List Char) {s : List Char} {ts : List Token}
    (chars : ∀ c ∈ run, isNumeralChar c = true) (h : lexFrom run s = .ok ts) :
    Spelled ts (run.reverse ++ s) := by
  induction s generalizing run ts with
  | nil => exact spelled_of_endRun chars h fun us same => Except.ok.inj same ▸ .nil
  | cons c s ih =>
    rw [lexFrom] at h
    split at h
    · next char =>
      have := ih (c :: run) (List.forall_mem_cons.mpr ⟨char, chars⟩) h
      rwa [List.reverse_cons, List.append_assoc, List.singleton_append] at this
    · refine spelled_of_endRun chars h fun us lexed => ?_
      split at lexed
      · next blank => exact .blank blank (ih [] nofun lexed)
      · split at lexed
        · next t single =>
          obtain ⟨vs, found, rfl⟩ := Except.map_eq_ok.mp lexed
          exact .token (Token.spelled_of_ofChar? single) (ih [] nofun found)
        · cases lexed

/-- **The tokens that `lex` finds in a text spell it.** -/
theorem spelled_of_lex {s : List Char} {ts : List Token} (h : lex s = .ok ts) : Spelled ts s :=
  spelled_of_lexFrom [] nofun h

/-- No two numbers in a row. -/
def Apart (ts : List Token) : Prop :=
  ts.IsChain fun t u => t.isNumber = false ∨ u.isNumber = false

/-- A text leaves a numeral before it alone if it does not spell a number first. -/
theorem Spelled.parted {ts : List Token} {s : List Char} (h : Spelled ts s)
    (other : ∀ t ∈ ts.head?, t.isNumber = false) : Parted s := by
  cases h with
  | nil => exact nofun
  | blank blank _ =>
    rintro c ⟨⟩
    exact isNumeralChar_of_isBlank blank
  | token first _ =>
    obtain ⟨c, rfl, number, -, -⟩ := first.single (other _ rfl)
    rintro c ⟨⟩
    exact number

/-- **`lex` finds the tokens that a text was spelled from**, if no two numbers stand in a row. -/
theorem lex_of_spelled {ts : List Token} {s : List Char} (h : Spelled ts s) (apart : Apart ts) :
    lex s = .ok ts := by
  induction h with
  | nil => rfl
  | blank blank _ ih => exact (lex_blank blank _).trans (ih apart)
  | @token t text ts s first rest ih =>
    have found := ih apart.tail
    cases number : t.isNumber with
    | true =>
      cases first with
      | number numeral =>
        have parted : Parted s := rest.parted fun u hu => by
          cases ts with
          | nil => cases hu
          | cons v ts =>
            obtain rfl := Option.some.inj hu
            exact (List.isChain_cons_cons.mp apart).1.resolve_left nofun
        rw [lex_numeral numeral parted, found]
        rfl
      | _ => cases number
    | false =>
      obtain ⟨c, rfl, char, blank, single⟩ := first.single number
      rw [List.singleton_append, lex_single char blank single, found]
      rfl

/-- Tokens on both sides of one that is no number are apart if they are among themselves. -/
theorem Apart.between {ts us : List Token} (left : Apart ts) (right : Apart us) {t : Token}
    (other : t.isNumber = false) : Apart (ts ++ t :: us) := by
  refine List.isChain_append.mpr ⟨left, List.isChain_cons.mpr ⟨fun _ _ => .inl other, right⟩, ?_⟩
  rintro x - y ⟨⟩
  exact .inr other

/-- **No expression is written with two numbers in a row.** -/
theorem Expr.Written.apart {c : Category} {e : Expr} {ts : List Token} (h : e.Written c ts) :
    Apart ts := by
  have empty : Apart [] := .nil
  induction h with
  | number => exact .singleton _
  | parens _ ih => exact empty.between (ih.between empty rfl) rfl
  | neg _ ih => exact empty.between ih rfl
  | pow _ _ ihl ihr | product _ _ _ ihl ihr | sum _ _ _ ihl ihr => exact ihl.between ihr rfl
  | primary _ ih | unary _ ih | term _ ih => exact ih

end Colloquy.Calculator
