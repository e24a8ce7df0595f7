import Colloquy.Json.Text
import Mathlib.Data.List.Forall2

/-! # Printed values read back

Reading inverts printing for values whose numbers are integers and which do not nest too deeply,
`Json.Plain`.  Each reader is shown to take exactly the printed text off the front of whatever
follows it; a number has to be followed by something that cannot continue it.  The main statement
is `Json.ofText_compact`. -/

namespace Colloquy.Json

/-- Values whose numbers are integers, and whose arrays and objects nest at most so deep. -/
inductive Plain : Nat → Json → Prop where
  /-- The literal `null`. -/
  | null {depth : Nat} : Plain depth .null
  /-- A truth value. -/
  | bool {depth : Nat} (b : Bool) : Plain depth (.bool b)
  /-- An integer. -/
  | int {depth : Nat} (i : JsonInt) : Plain depth (.num (.int i))
  /-- A string. -/
  | str {depth : Nat} (s : String) : Plain depth (.str s)
  /-- An array nests one level deeper than its items. -/
  | arr {depth : Nat} {items : List Json} (all : ∀ v ∈ items, Plain depth v) :
    Plain (depth + 1) (.arr items)
  /-- An object nests one level deeper than its members' values. -/
  | obj {depth : Nat} {fields : List (String × Json)} (all : ∀ f ∈ fields, Plain depth f.2) :
    Plain (depth + 1) (.obj fields)

/-- Whether a text cannot continue a number that ends before it. -/
def Delimited (rest : List Char) : Prop :=
  ∀ c ∈ rest.head?, isDigit c = false ∧ c ≠ '.' ∧ c ≠ 'e' ∧ c ≠ 'E'

/-- The blanks between tokens. -/
theorem isSpace_iff {c : Char} : isSpace c = true ↔ c = ' ' ∨ c = '\n' ∨ c = '\t' ∨ c = '\r' := by
  simp only [isSpace, Bool.or_eq_true, decide_eq_true_eq, or_assoc]

/-- Nothing is left to skip before a character that is no blank. -/
theorem skipSpace_cons {c : Char} (visible : isSpace c = false) (s : List Char) :
    skipSpace (c :: s) = c :: s := by
  rw [skipSpace, List.dropWhile_cons_of_neg (by simp [visible])]

/-- A list is no longer than what its elements are written as. -/
theorem length_le_length_flatMap {α β : Type} {f : α → List β} (xs : List α)
    (written : ∀ x, f x ≠ []) : xs.length ≤ (xs.flatMap f).length := by
  induction xs with
  | nil => exact Nat.le_refl _
  | cons x xs ih =>
    have := List.length_pos_of_ne_nil (written x)
    rw [List.flatMap_cons, List.length_append, List.length_cons]
    omega

/-! ## Strings -/

/-- A hexadecimal digit has its value. -/
theorem hexValue?_hexDigit : ∀ n < 16, hexValue? (hexDigit n) = some n := by decide

/-- Two hexadecimal digits after two zeros stand for a byte. -/
theorem readHex_hexDigit {n : Nat} (byte : n < 256) (rest : List Char) :
    readHex ('0' :: '0' :: hexDigit (n / 16) :: hexDigit (n % 16) :: rest) = .ok (n, rest) := by
  have zero : hexValue? '0' = some 0 := by decide
  have high := hexValue?_hexDigit (n / 16) (by omega)
  have low := hexValue?_hexDigit (n % 16) (by omega)
  simp only [readHex, zero, high, low]
  congr 2
  omega

/-- **An escaped character is read as that character.** -/
theorem readStringFrom_escapeChar (fuel : Nat) (read : List Char) (c : Char) (s : List Char) :
    readStringFrom (fuel + 1) read (escapeChar c ++ s) = readStringFrom fuel (c :: read) s := by
  rw [escapeChar]
  -- Control characters without a short escape are written by their code.
  repeat' split
  all_goals try subst c; rfl
  · next control =>
    have code := readHex_hexDigit (n := c.toNat) (by omega) s
    have low : ¬ (0xDC00 ≤ c.toNat ∧ c.toNat ≤ 0xDFFF) := by omega
    have high : ¬ (0xD800 ≤ c.toNat ∧ c.toNat ≤ 0xDBFF) := by omega
    simp [readStringFrom, readEscape, code, low, high, bind, Except.bind, Char.ofNat_toNat]
  · next quote backslash _ _ _ _ _ control =>
    simp [readStringFrom, quote, backslash, control]

/-- The characters of a string are read one after the other. -/
theorem readStringFrom_flatMap {fuel : Nat} {cs : List Char} (enough : cs.length < fuel)
    (read rest : List Char) :
    readStringFrom fuel read (cs.flatMap escapeChar ++ '"' :: rest) =
      .ok (String.ofList (read.reverse ++ cs), rest) := by
  induction cs generalizing fuel read with
  | nil =>
    obtain ⟨fuel, rfl⟩ := Nat.exists_eq_add_of_lt enough
    simp [readStringFrom]
  | cons c cs ih =>
    obtain ⟨fuel, rfl⟩ := Nat.exists_eq_add_of_lt enough
    rw [List.flatMap_cons, List.append_assoc, List.length_cons, readStringFrom_escapeChar,
      ih (by omega), List.reverse_cons, List.append_assoc]
    rfl

/-- Each character is written somehow. -/
theorem escapeChar_ne_nil (c : Char) : escapeChar c ≠ [] := by
  rw [escapeChar]
  repeat' split
  all_goals simp

/-- **A printed string reads back**, after its opening quote. -/
theorem readString_print (s : String) (rest : List Char) :
    readString (s.toList.flatMap escapeChar ++ '"' :: rest) = .ok (s, rest) := by
  have length := length_le_length_flatMap s.toList escapeChar_ne_nil
  have enough : s.toList.length < (s.toList.flatMap escapeChar ++ '"' :: rest).length + 1 := by
    rw [List.length_append]
    omega
  rw [readString, readStringFrom_flatMap enough, List.reverse_nil, List.nil_append,
    String.ofList_toList]

/-! ## Integers -/

/-- A natural is written in digits, of which there is at least one. -/
theorem exists_toDigits (n : Nat) :
    ∃ c digits, Nat.toDigits 10 n = c :: digits ∧ isDigit c = true ∧
      ∀ d ∈ digits, isDigit d = true := by
  have all : ∀ c ∈ Nat.toDigits 10 n, isDigit c = true := by
    intro c hc
    have digit := Nat.isDigit_of_mem_toDigits (by omega) (by omega) hc
    simpa [isDigit, Char.isDigit, Char.le_def] using digit
  cases digits : Nat.toDigits 10 n with
  | nil => exact absurd digits Nat.toDigits_ne_nil
  | cons c ds =>
    rw [digits] at all
    exact ⟨c, ds, rfl, List.forall_mem_cons.mp all⟩

/-- A digit is no blank. -/
theorem isSpace_of_isDigit {c : Char} (h : isDigit c = true) : isSpace c = false := by
  by_contra space
  rw [Bool.not_eq_false, isSpace_iff] at space
  rcases space with rfl | rfl | rfl | rfl <;> exact absurd h (by decide)

/-- A number grows with its digits. -/
theorem le_ofDigitChars (n : Nat) (digits : List Char) : n ≤ Nat.ofDigitChars 10 digits n := by
  induction digits generalizing n with
  | nil => exact Nat.le_refl _
  | cons c digits ih =>
    rw [Nat.ofDigitChars_cons]
    exact Nat.le_trans (by omega) (ih _)

/-- Digits are appended to a significand as long as the number fits. -/
theorem appendDigits_eq {n : Nat} {digits : List Char}
    (fits : Nat.ofDigitChars 10 digits n < UInt64.size) :
    appendDigits n digits = (Nat.ofDigitChars 10 digits n, []) := by
  induction digits generalizing n with
  | nil => rfl
  | cons c digits ih =>
    rw [Nat.ofDigitChars_cons, Nat.mul_comm] at fits ⊢
    have first : n * 10 + digitValue c < UInt64.size :=
      Nat.lt_of_le_of_lt (le_ofDigitChars _ _) fits
    have step : appendDigits n (c :: digits) =
        if n * 10 + digitValue c < UInt64.size then appendDigits (n * 10 + digitValue c) digits
        else (n, c :: digits) := rfl
    rw [step, if_pos first]
    exact ih fits

/-- Only zero begins with the digit zero. -/
theorem eq_nil_of_toDigits {n : Nat} {digits : List Char}
    (h : Nat.toDigits 10 n = '0' :: digits) : digits = [] := by
  induction n using Nat.strongRecOn generalizing digits with
  | _ n ih =>
    by_cases small : n < 10
    · rw [Nat.toDigits_of_lt_base small] at h
      exact (List.cons.inj h).2.symm
    · -- The first digit is that of a tenth, which is not zero.
      have tenth : 0 < n / 10 := Nat.div_pos (by omega) (by omega)
      rw [Nat.toDigits_of_base_le (by omega) (by omega)] at h
      cases front : Nat.toDigits 10 (n / 10) with
      | nil => exact absurd front Nat.toDigits_ne_nil
      | cons c rest =>
        rw [front] at h
        obtain ⟨rfl, -⟩ := List.cons.inj h
        have none := ih (n / 10) (by omega) front
        have value := Nat.ofDigitChars_toDigits (b := 10) (n := n / 10) (by omega) (by omega)
        rw [front, none] at value
        have zero : Nat.ofDigitChars 10 ['0'] 0 = 0 := by decide
        omega

/-- **A printed natural reads back** as a whole number. -/
theorem readNumber_toDigits {n : Nat} (fits : n < UInt64.size) (positive : Bool) {rest : List Char}
    (ended : Delimited rest) :
    readNumber positive (Nat.toDigits 10 n ++ rest) = .ok (wholeNumber positive n, rest) := by
  have value := Nat.ofDigitChars_toDigits (b := 10) (n := n) (by omega) (by omega)
  obtain ⟨c, digits, text, first, others⟩ := exists_toDigits n
  rw [text, Nat.ofDigitChars_cons, Nat.mul_zero, Nat.zero_add] at value
  have read : appendDigits (digitValue c) digits = (n, []) := by
    rw [← value]
    exact appendDigits_eq (Nat.lt_of_le_of_lt (Nat.le_of_eq value) fits)
  -- After a zero no digit is looked for, and none is there.
  have taken : (if c = '0' then [] else (digits ++ rest).takeWhile isDigit) = digits ∧
      (if c = '0' then digits ++ rest else (digits ++ rest).dropWhile isDigit) = rest := by
    by_cases zero : c = '0'
    · subst zero
      rw [if_pos rfl, if_pos rfl, eq_nil_of_toDigits text]
      exact ⟨rfl, rfl⟩
    · rw [if_neg zero, if_neg zero, List.takeWhile_append_of_pos others,
        List.dropWhile_append_of_pos others]
      cases rest with
      | nil => simp
      | cons d rest => simp [(ended d rfl).1]
  rw [text, List.cons_append, readNumber, first]
  simp only [taken, read]
  cases rest with
  | nil => rfl
  | cons d rest =>
    obtain ⟨digit, point, lower, upper⟩ := ended d rfl
    simp [digit, point, lower, upper]

/-- An integer is read as it is. -/
theorem wholeNumber_natAbs (i : JsonInt) :
    wholeNumber (decide (0 ≤ i.val)) i.val.natAbs = .int i := by
  obtain ⟨i, lower, upper⟩ := i
  have value : (if decide (0 ≤ i) = true then (i.natAbs : Int) else -(i.natAbs : Int)) = i := by
    split
    · next positive =>
      have := of_decide_eq_true positive
      omega
    · next negative =>
      have := of_decide_eq_false (Bool.eq_false_iff.mpr negative)
      omega
  have nonzero : (decide (0 ≤ i) || decide (i.natAbs ≠ 0)) = true := by
    rw [Bool.or_eq_true, decide_eq_true_eq, decide_eq_true_eq]
    omega
  simp only [wholeNumber, value, JsonInt.ofInt?, dif_pos (And.intro lower upper), nonzero, if_true]

/-- **A printed integer reads back.** -/
theorem readTree_printInt (depth : Nat) (i : JsonInt) {rest : List Char} (ended : Delimited rest) :
    readTree depth (printInt i.val ++ rest) = .ok (.num (.int i), rest) := by
  have fits : i.val.natAbs < UInt64.size := by
    have := i.lower
    have := i.upper
    rw [UInt64.size]
    omega
  have value := wholeNumber_natAbs i
  rw [printInt]
  split
  · next negative =>
    -- The sign is taken first.
    rw [show decide (0 ≤ i.val) = false from decide_eq_false (by omega)] at value
    rw [List.cons_append, readTree, skipSpace_cons rfl]
    simp [readNumber_toDigits fits false ended, value, Except.map]
  · next positive =>
    rw [show decide (0 ≤ i.val) = true from decide_eq_true (by omega)] at value
    have read := readNumber_toDigits fits true ended
    obtain ⟨c, digits, text, digit, -⟩ := exists_toDigits i.val.natAbs
    have other : c ≠ 'n' ∧ c ≠ 't' ∧ c ≠ 'f' ∧ c ≠ '-' := by
      refine ⟨?_, ?_, ?_, ?_⟩ <;> rintro rfl <;> cases digit
    rw [text, List.cons_append] at read ⊢
    rw [readTree, skipSpace_cons (isSpace_of_isDigit digit)]
    simp [other, digit, read, value, Except.map]

/-! ## Arrays and objects -/

/-- A member of an object, printed. -/
def printMember (f : String × Json) : List Char := printString f.1 ++ ':' :: print f.2

/-- Items after the first are printed after a comma each. -/
theorem printItems_cons (v : Json) (items : List Json) :
    printItems (v :: items) = print v ++ items.flatMap fun w => ',' :: print w := by
  induction items generalizing v with
  | nil => simp [printItems]
  | cons w items ih => rw [printItems, ih, List.flatMap_cons, List.cons_append]

/-- Members after the first are printed after a comma each. -/
theorem printFields_cons (f : String × Json) (fields : List (String × Json)) :
    printFields (f :: fields) = printMember f ++ fields.flatMap fun g => ',' :: printMember g := by
  induction fields generalizing f with
  | nil => simp [printFields, printMember]
  | cons g fields ih =>
    rw [printFields, ih, List.flatMap_cons]
    simp only [printMember, List.cons_append, List.append_assoc]

/-- Members are no more than the characters that they are printed with. -/
theorem length_le_length_printFields (fields : List (String × Json)) :
    fields.length ≤ (printFields fields).length := by
  cases fields with
  | nil => exact Nat.zero_le _
  | cons f fields =>
    have commas := length_le_length_flatMap (f := fun g => ',' :: printMember g) fields (by simp)
    rw [printFields_cons, printMember, List.length_append, List.length_append,
      List.length_cons, List.length_cons]
    omega

/-- What follows an item or a member cannot continue it. -/
theorem delimited_flatMap {α : Type} (text : α → List Char) (xs : List α) {c : Char}
    (closing : c = ']' ∨ c = '\x7d') (rest : List Char) :
    Delimited ((xs.flatMap fun x => ',' :: text x) ++ c :: rest) := by
  cases xs with
  | nil => rcases closing with rfl | rfl <;> simp [Delimited] <;> decide
  | cons x xs =>
    simp [Delimited]
    decide

/-- Whether a reader takes the printed text of a value off the front of what cannot continue it, and
reads it as something; the text begins with neither a blank nor the end of an array. -/
structure ReadsBack {α : Type} (read : List Char → Except Fault (α × List Char)) (v : Json)
    (a : α) : Prop where
  /-- The text is read. -/
  value : ∀ {rest : List Char}, Delimited rest → read (print v ++ rest) = .ok (a, rest)
  /-- The text begins with something else. -/
  opening : ∃ c s, print v = c :: s ∧ isSpace c = false ∧ c ≠ ']'

/-- The first item of an array begins where it is looked for. -/
theorem nextItem_first {c : Char} (visible : isSpace c = false) (other : c ≠ ']') (s : List Char) :
    nextItem true (c :: s) = .ok (some (c :: s), c :: s) := by
  simp [nextItem, skipSpace_cons visible, other]

/-- A further item of an array begins after a comma. -/
theorem nextItem_comma {c : Char} (visible : isSpace c = false) (other : c ≠ ']') (s : List Char) :
    nextItem false (',' :: c :: s) = .ok (some (c :: s), c :: s) := by
  simp [nextItem, skipSpace_cons (c := ',') rfl, skipSpace_cons visible, other]

/-- The first member of an object begins with its name. -/
theorem nextKey_first (name : String) (s : List Char) :
    nextKey true (printString name ++ s) = .ok (some name, s) := by
  rw [printString, List.cons_append, List.append_assoc, List.singleton_append]
  simp [nextKey, skipSpace_cons (c := '"') rfl, readString_print, Except.map]

/-- A further member of an object begins with its name after a comma. -/
theorem nextKey_comma (name : String) (s : List Char) :
    nextKey false (',' :: (printString name ++ s)) = .ok (some name, s) := by
  rw [printString, List.cons_append, List.append_assoc, List.singleton_append]
  simp [nextKey, skipSpace_cons (c := ',') rfl, skipSpace_cons (c := '"') rfl, readString_print,
    Except.map]

section

variable {α : Type} {read : List Char → Except Fault (α × List Char)}

/-- Items after the first are read one after the other. -/
theorem readItems_flatMap {items : List Json} {as : List α}
    (all : List.Forall₂ (ReadsBack read) items as) {fuel : Nat} (enough : items.length < fuel)
    (rest : List Char) :
    readItems read fuel false ((items.flatMap fun v => ',' :: print v) ++ ']' :: rest) =
      .ok (as, ']' :: rest) := by
  induction all generalizing fuel with
  | nil =>
    cases fuel with
    | zero => cases enough
    | succ fuel => rfl
  | @cons v a items as first others ih =>
    cases fuel with
    | zero => cases enough
    | succ fuel =>
      obtain ⟨c, s, text, visible, other⟩ := first.opening
      have value := first.value (delimited_flatMap print items (.inl rfl) rest)
      have later := ih (Nat.lt_of_succ_lt_succ enough)
      rw [List.flatMap_cons, List.cons_append, List.cons_append, List.append_assoc, readItems]
      rw [text, List.cons_append] at value ⊢
      simp [nextItem_comma visible other, value, later, bind, Except.bind]

/-- **A printed array reads back**, after its opening bracket. -/
theorem readList_printItems {items : List Json} {as : List α}
    (all : List.Forall₂ (ReadsBack read) items as) (rest : List Char) :
    readList read (printItems items ++ ']' :: rest) = .ok (as, rest) := by
  have ended : endList (']' :: rest) = .ok rest := rfl
  suffices h : ∀ fuel, items.length < fuel →
      readItems read fuel true (printItems items ++ ']' :: rest) = .ok (as, ']' :: rest) by
    have enough : items.length ≤ (printItems items).length := by
      cases all with
      | nil => exact Nat.zero_le _
      | @cons v a items as first others =>
        obtain ⟨c, s, text, -⟩ := first.opening
        have commas := length_le_length_flatMap (f := fun w => ',' :: print w) items (by simp)
        rw [printItems_cons, text, List.length_append, List.length_cons, List.length_cons]
        omega
    rw [readList, h _ (by rw [List.length_append]; omega)]
    simp [ended, Except.map]
  intro fuel enough
  cases fuel with
  | zero => cases enough
  | succ fuel =>
    cases all with
    | nil => rfl
    | @cons v a items as first others =>
      obtain ⟨c, s, text, visible, other⟩ := first.opening
      have value := first.value (delimited_flatMap print items (.inl rfl) rest)
      have later := readItems_flatMap others (Nat.lt_of_succ_lt_succ enough) rest
      rw [printItems_cons, List.append_assoc, readItems]
      rw [text, List.cons_append] at value ⊢
      simp [nextItem_first visible other, value, later, bind, Except.bind]

end

section

variable {read : List Char → Except Fault (Json × List Char)}

/-- Members after the first are read one after the other. -/
theorem readMembers_flatMap {fields : List (String × Json)}
    (all : ∀ f ∈ fields, ReadsBack read f.2 f.2) {fuel : Nat} (enough : fields.length < fuel)
    (rest : List Char) :
    readMembers read fuel false ((fields.flatMap fun f => ',' :: printMember f) ++ '\x7d' :: rest) =
      .ok (fields, '\x7d' :: rest) := by
  induction fields generalizing fuel with
  | nil =>
    cases fuel with
    | zero => cases enough
    | succ fuel => rfl
  | cons f fields ih =>
    cases fuel with
    | zero => cases enough
    | succ fuel =>
      obtain ⟨first, others⟩ := List.forall_mem_cons.mp all
      have value := first.value (delimited_flatMap printMember fields (.inr rfl) rest)
      have later := ih others (Nat.lt_of_succ_lt_succ enough)
      rw [List.flatMap_cons, List.cons_append, List.cons_append, List.append_assoc, printMember,
        List.append_assoc, List.cons_append, readMembers]
      simp [nextKey_comma, skipColon, skipSpace_cons (c := ':') rfl, value, later, bind,
        Except.bind]

/-- **A printed object reads back**, after its opening brace. -/
theorem readObject_printFields {fields : List (String × Json)}
    (all : ∀ f ∈ fields, ReadsBack read f.2 f.2) (rest : List Char) :
    readObject read (printFields fields ++ '\x7d' :: rest) = .ok (fields, rest) := by
  have ended : pastObject ('\x7d' :: rest) = rest := rfl
  suffices h : ∀ fuel, fields.length < fuel →
      readMembers read fuel true (printFields fields ++ '\x7d' :: rest) =
        .ok (fields, '\x7d' :: rest) by
    have enough := length_le_length_printFields fields
    rw [readObject, h _ (by rw [List.length_append]; omega)]
    simp [ended]
  intro fuel enough
  cases fuel with
  | zero => cases enough
  | succ fuel =>
    cases fields with
    | nil => rfl
    | cons f fields =>
      obtain ⟨first, others⟩ := List.forall_mem_cons.mp all
      have value := first.value (delimited_flatMap printMember fields (.inr rfl) rest)
      have later := readMembers_flatMap others (Nat.lt_of_succ_lt_succ enough) rest
      rw [printFields_cons, List.append_assoc, printMember, List.append_assoc, List.cons_append,
        readMembers]
      simp [nextKey_first, skipColon, skipSpace_cons (c := ':') rfl, value, later, bind,
        Except.bind]

end

/-! ## Values -/

/-- The text of a value begins with neither a blank nor the end of an array. -/
theorem Plain.opening {depth : Nat} {v : Json} (h : Plain depth v) :
    ∃ c s, print v = c :: s ∧ isSpace c = false ∧ c ≠ ']' := by
  cases h with
  | null => exact ⟨_, _, rfl, rfl, by decide⟩
  | bool b => cases b <;> exact ⟨_, _, rfl, rfl, by decide⟩
  | str s => exact ⟨_, _, rfl, rfl, by decide⟩
  | arr => exact ⟨_, _, rfl, rfl, by decide⟩
  | obj => exact ⟨_, _, rfl, rfl, by decide⟩
  | int i =>
    rw [print, printNumber, printInt]
    split
    · exact ⟨_, _, rfl, rfl, by decide⟩
    · obtain ⟨c, digits, text, digit, -⟩ := exists_toDigits i.val.natAbs
      refine ⟨c, digits, text, isSpace_of_isDigit digit, ?_⟩
      rintro rfl
      cases digit

/-- **A printed value reads back** where it nests no deeper than is allowed; a scalar always
does. -/
theorem Plain.readsBack {nesting : Nat} {v : Json} (h : Plain nesting v) {depth : Nat}
    (allowed : nesting ≤ depth - 1) : ReadsBack (readTree depth) v v := by
  refine ⟨fun {rest} ended => ?_, h.opening⟩
  -- The induction is on the value; its items and members are read one level deeper.
  induction h generalizing depth rest with
  | null => simp [print, readTree, skipSpace_cons (c := 'n') rfl, readWord, Except.map]
  | bool b =>
    cases b with
    | true => simp [print, readTree, skipSpace_cons (c := 't') rfl, readWord, Except.map]
    | false => simp [print, readTree, skipSpace_cons (c := 'f') rfl, readWord, Except.map]
  | int i => exact readTree_printInt depth i ended
  | str s =>
    rw [print, printString, List.cons_append, List.append_assoc, List.singleton_append, readTree,
      skipSpace_cons rfl]
    simp [isDigit, readString_print, Except.map]
  | @arr nesting items all ih =>
    obtain ⟨depth, rfl⟩ : ∃ more, depth = nesting + more + 1 + 1 := ⟨depth - nesting - 2, by omega⟩
    have each : List.Forall₂ (ReadsBack (readTree (nesting + depth + 1))) items items :=
      List.forall₂_same.mpr fun v hv =>
        ⟨fun ended => ih v hv (by omega) ended, (all v hv).opening⟩
    rw [print, List.cons_append, List.append_assoc, List.singleton_append, readTree,
      skipSpace_cons rfl]
    simp [isDigit, readList_printItems each, Except.map]
  | @obj nesting fields all ih =>
    obtain ⟨depth, rfl⟩ : ∃ more, depth = nesting + more + 1 + 1 := ⟨depth - nesting - 2, by omega⟩
    have each : ∀ f ∈ fields, ReadsBack (readTree (nesting + depth + 1)) f.2 f.2 := fun f hf =>
      ⟨fun ended => ih f hf (by omega) ended, (all f hf).opening⟩
    rw [print, List.cons_append, List.append_assoc, List.singleton_append, readTree,
      skipSpace_cons rfl]
    simp [isDigit, readObject_printFields each, Except.map]

/-- **`ofText` reads the compact text of a value back** to the value in canonical form, if its
numbers are integers and it nests no deeper than is read. -/
theorem ofText_compact {v : Json} (h : Plain (depthLimit - 1) v) :
    ofText v.compact = .ok v.canonical := by
  have reads : ReadsBack (readTree depthLimit) v v := h.readsBack (Nat.le_refl _)
  have read : readTree depthLimit (print v ++ []) = .ok (v, []) := reads.value nofun
  rw [List.append_nil] at read
  rw [ofText, parse, compact, String.toList_ofList, read]
  rfl

end Colloquy.Json
