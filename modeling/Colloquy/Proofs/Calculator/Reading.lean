import Colloquy.Proofs.Calculator.Evaluation

/-! # Reading arithmetic

What the evaluator makes of tokens of any kind.  It divides as soon as it has read a divisor, so
tokens fail that begin with a phrase up to the end of a divisor that is zero: `Breaks` says by the
grammar which these are, `Breaks.fails` that they fail, and `readings` that otherwise the evaluator
reads a phrase of the grammar or finds the tokens malformed. -/

namespace Colloquy.Calculator

variable {V : Type} {a : Arithmetic V}

/-- How phrases of a category begin up to the end of a divisor that is zero. -/
inductive Breaks (a : Arithmetic V) : Category → List Token → Prop where
  /-- A term is divided by it. -/
  | divisor {o : Operator} {l r : Expr} {ts us : List Token} {y : V} (divides : o.Divides)
    (left : l.Written .term ts) (right : r.Written .unary us) (value : r.value a = some y)
    (zero : a.isZero y = true) : Breaks a .term (ts ++ .op o :: us)
  /-- It is within parentheses. -/
  | parens {ts : List Token} (inner : Breaks a .expression ts) : Breaks a .primary (.opening :: ts)
  /-- It is within a primary phrase at the start. -/
  | primary {ts : List Token} (first : Breaks a .primary ts) : Breaks a .unary ts
  /-- It is within what has a sign. -/
  | neg {ts : List Token} (operand : Breaks a .unary ts) : Breaks a .unary (.op .sub :: ts)
  /-- It is within an exponent. -/
  | pow {l : Expr} {ts us : List Token} (base : l.Written .primary ts)
    (exponent : Breaks a .unary us) : Breaks a .unary (ts ++ .op .pow :: us)
  /-- It is within a unary phrase at the start. -/
  | unary {ts : List Token} (first : Breaks a .unary ts) : Breaks a .term ts
  /-- It is within a factor. -/
  | product {o : Operator} {l : Expr} {ts us : List Token} (multiplicative : o.Multiplicative)
    (left : l.Written .term ts) (right : Breaks a .unary us) : Breaks a .term (ts ++ .op o :: us)
  /-- It is within a term at the start. -/
  | term {ts : List Token} (first : Breaks a .term ts) : Breaks a .expression ts
  /-- It is within a summand. -/
  | sum {o : Operator} {l : Expr} {ts us : List Token} (additive : o.Additive)
    (left : l.Written .expression ts) (right : Breaks a .term us) :
    Breaks a .expression (ts ++ .op o :: us)

/-- Whether tokens begin with a phrase of a category up to the end of a divisor that is zero.  An
exponent that follows would belong to the divisor. -/
def BreaksOff (a : Arithmetic V) (c : Category) (ts : List Token) : Prop :=
  ∃ front rest, ts = front ++ rest ∧ Breaks a c front ∧ rest.head? ≠ some (.op .pow)

/-! ## Broken phrases fail -/

/-- Whether tokens at the front are found to divide by zero, at every power at which a category is
read whole and in front of everything but an exponent. -/
def Fails (a : Arithmetic V) (c : Category) (ts : List Token) : Prop :=
  ∀ {n p : Nat} {rest : List Token}, 2 * (ts ++ rest).length + 2 ≤ n → p ≤ c.power →
    rest.head? ≠ some (.op .pow) →
    expression a n p (ts ++ rest) = .error (.math .divisionByZero)

/-- Anything but an exponent ends a unary phrase. -/
theorem stops_of_ne_pow {rest : List Token} (h : rest.head? ≠ some (.op .pow)) : Stops 3 rest := by
  intro o head
  cases o with
  | pow => exact absurd head h
  | _ => decide

namespace Fails

variable {c c' : Category} {l : Expr} {ts us : List Token}

/-- What fails as a phrase of a category fails as one of any looser category. -/
theorem widen (h : Fails a c ts) (power : c'.power ≤ c.power) : Fails a c' ts :=
  fun fuel le other => h fuel (le.trans power) other

/-- What fails in parentheses fails. -/
theorem parens (h : Fails a .expression ts) : Fails a .primary (.opening :: ts) := by
  intro k p rest fuel _ other
  rw [List.length_append, List.length_cons] at fuel
  obtain ⟨k, rfl⟩ := Nat.exists_eq_add_of_le' (show 2 ≤ k by omega)
  have inner := h (n := k) (by rw [List.length_append]; omega) (Nat.zero_le _) other
  rw [List.cons_append, expression, operand, inner]
  rfl

/-- What fails after a sign fails. -/
theorem neg (h : Fails a .unary ts) : Fails a .unary (.op .sub :: ts) := by
  intro k p rest fuel _ other
  rw [List.length_append, List.length_cons] at fuel
  obtain ⟨k, rfl⟩ := Nat.exists_eq_add_of_le' (show 2 ≤ k by omega)
  have inner := h (n := k) (p := 3) (by rw [List.length_append]; omega) (by decide) other
  rw [List.cons_append, expression, operand, inner]
  rfl

/-- A right operand that fails, fails after a left one. -/
theorem right {o : Operator} (left : Reads a o.left l ts) (right : Fails a o.right us) :
    Fails a o.category (ts ++ .op o :: us) := by
  intro n p rest fuel le other
  rw [o.power_category] at le
  rw [List.append_assoc, List.cons_append] at fuel ⊢
  obtain ⟨m, more, read⟩ := left.operator fuel le
  rw [read, right more o.rightPower_le_right other]
  cases l.value a <;> rfl

/-- A divisor that is zero fails after a left operand. -/
theorem divisor {o : Operator} {r : Expr} {y : V} (divides : o.Divides)
    (left : Reads a o.left l ts) (right : Reads a o.right r us) (value : r.value a = some y)
    (zero : a.isZero y = true) : Fails a o.category (ts ++ .op o :: us) := by
  intro n p rest fuel le other
  rw [o.power_category] at le
  rw [List.append_assoc, List.cons_append] at fuel ⊢
  have stops := stops_of_ne_pow other
  have ends : 3 ≤ o.right.limit ∧ 3 ≤ o.rightPower := by
    rcases divides with rfl | rfl <;> decide
  obtain ⟨m, more, read⟩ := left.operator fuel le
  rw [read, right.whole rest more o.rightPower_le_right (stops.mono ends.1) (stops.mono ends.2),
    value]
  cases l.value a with
  | none => rfl
  | some x => simp [divides, zero, bind, Except.bind]

end Fails

/-- **What begins with a broken phrase fails**, whatever follows but an exponent. -/
theorem Breaks.fails {c : Category} {ts : List Token} (h : Breaks a c ts) : Fails a c ts := by
  induction h with
  | divisor divides left right value zero =>
    rcases divides with rfl | rfl
    · exact Fails.divisor (.inl rfl) left.reads right.reads value zero
    · exact Fails.divisor (.inr rfl) left.reads right.reads value zero
  | parens _ ih => exact ih.parens
  | neg _ ih => exact ih.neg
  | pow base _ ih => exact Fails.right (o := .pow) base.reads ih
  | product multiplicative left _ ih =>
    rcases multiplicative with rfl | rfl | rfl <;> exact Fails.right left.reads ih
  | sum additive left _ ih =>
    rcases additive with rfl | rfl <;> exact Fails.right left.reads ih
  | primary _ ih | unary _ ih | term _ ih => exact ih.widen (by decide)

/-! ## What reading comes to -/

namespace Category

variable {c c' : Category}

/-- What holds of phrases from one category to the next looser one holds of all looser ones. -/
theorem widen {P : Category → Prop} (unary : P .primary → P .unary) (term : P .unary → P .term)
    (expression : P .term → P .expression) (le : c'.power ≤ c.power) (h : P c) : P c' := by
  cases c <;> cases c' <;> first | exact absurd le (by decide) | tauto

/-- The category that is read at a power. -/
def ofPower (p : Nat) : Category := if p ≤ 1 then expression else if p = 2 then term else unary

/-- A category is read at every power at which it is read whole. -/
theorem power_ofPower {p : Nat} (le : p ≤ c.power) : (ofPower p).power ≤ c.power := by
  rw [ofPower]
  split
  · cases c <;> decide
  · split
    · next two =>
      subst two
      exact le
    · cases c <;> simp [power] at le ⊢ <;> omega

/-- The right operand is of the category that is read at its power. -/
theorem ofPower_rightPower (o : Operator) : ofPower o.rightPower = o.right := by cases o <;> rfl

/-- A phrase that an operator goes on with is a left operand. -/
theorem power_left {o : Operator} (lt : o.power < c.limit) : o.left.power ≤ c.power := by
  cases c <;> cases o <;> revert lt <;> decide

end Category

variable {c c' : Category} {e l r : Expr} {ts us : List Token} {x y : V} {o : Operator} {p : Nat}

/-- What is written of a category is written of any looser one. -/
theorem Expr.Written.widen (h : e.Written c ts) (le : c'.power ≤ c.power) : e.Written c' ts :=
  Category.widen (P := fun c => e.Written c ts) .primary .unary .term le h

/-- Operands are written with the operator between them. -/
theorem Expr.Written.binary (left : l.Written o.left ts) (right : r.Written o.right us) :
    (Expr.binary o l r).Written o.category (ts ++ .op o :: us) := by
  cases o with
  | add => exact .sum (.inl rfl) left right
  | sub => exact .sum (.inr rfl) left right
  | mul => exact .product (.inl rfl) left right
  | div => exact .product (.inr (.inl rfl)) left right
  | rem => exact .product (.inr (.inr rfl)) left right
  | pow => exact .pow left right

namespace BreaksOff

/-- What breaks off as a phrase of a category breaks off as one of any looser one. -/
theorem widen (h : BreaksOff a c ts) (le : c'.power ≤ c.power) : BreaksOff a c' ts := by
  obtain ⟨front, rest, rfl, breaks, other⟩ := h
  exact ⟨front, rest, rfl,
    Category.widen (P := fun c => Breaks a c front) .primary .unary .term le breaks, other⟩

/-- What breaks off in parentheses breaks off. -/
theorem parens (h : BreaksOff a .expression ts) : BreaksOff a .primary (.opening :: ts) := by
  obtain ⟨front, rest, rfl, breaks, other⟩ := h
  exact ⟨.opening :: front, rest, rfl, .parens breaks, other⟩

/-- What breaks off after a sign breaks off. -/
theorem neg (h : BreaksOff a .unary ts) : BreaksOff a .unary (.op .sub :: ts) := by
  obtain ⟨front, rest, rfl, breaks, other⟩ := h
  exact ⟨.op .sub :: front, rest, rfl, .neg breaks, other⟩

/-- What breaks off in a right operand breaks off after a left one. -/
theorem right (left : l.Written o.left ts) (h : BreaksOff a o.right us) :
    BreaksOff a o.category (ts ++ .op o :: us) := by
  obtain ⟨front, rest, rfl, breaks, other⟩ := h
  refine ⟨ts ++ .op o :: front, rest, by rw [List.append_assoc, List.cons_append], ?_, other⟩
  cases o with
  | add => exact .sum (.inl rfl) left breaks
  | sub => exact .sum (.inr rfl) left breaks
  | mul => exact .product (.inl rfl) left breaks
  | div => exact .product (.inr (.inl rfl)) left breaks
  | rem => exact .product (.inr (.inr rfl)) left breaks
  | pow => exact .pow left breaks

/-- Tokens break off after a divisor that is zero. -/
theorem divisor {rest : List Token} (divides : o.Divides) (left : l.Written o.left ts)
    (right : r.Written o.right us) (value : r.value a = some y) (zero : a.isZero y = true)
    (stops : Stops o.rightPower rest) : BreaksOff a o.category (ts ++ .op o :: (us ++ rest)) := by
  refine ⟨ts ++ .op o :: us, rest, by rw [List.append_assoc, List.cons_append], ?_, ?_⟩
  · rcases divides with rfl | rfl
    · exact .divisor (.inl rfl) left right value zero
    · exact .divisor (.inr rfl) left right value zero
  · intro pow
    have := stops _ pow
    rcases divides with rfl | rfl <;> exact absurd this (by decide)

end BreaksOff

/-- What reading a phrase of a category at the front of tokens can come to. -/
inductive Reading (a : Arithmetic V) (c : Category) (p : Nat) (ts : List Token) :
    Except EvalError (V × List Token) → Prop where
  /-- The value of the phrase, and the tokens after it, which do not go on with it. -/
  | phrase {e : Expr} {us rest : List Token} {x : V} (written : e.Written c us)
    (value : e.value a = some x) (split : ts = us ++ rest) (stops : Stops p rest) :
    Reading a c p ts (.ok (x, rest))
  /-- A division by zero. -/
  | broken (breaks : BreaksOff a c ts) : Reading a c p ts (.error (.math .divisionByZero))
  /-- A complaint about the form. -/
  | malformed (cause : SyntaxError) : Reading a c p ts (.error (.malformed cause))

/-- What the three parts of the evaluator come to with some fuel, where that is enough. -/
structure Readings (a : Arithmetic V) (n : Nat) : Prop where
  /-- Phrases are read at a power. -/
  expression : ∀ (p : Nat) (ts : List Token), p ≤ 4 → 2 * ts.length + 2 ≤ n →
    Reading a (.ofPower p) p ts (expression a n p ts)
  /-- Operands are unary phrases. -/
  operand : ∀ ts : List Token, 2 * ts.length + 1 ≤ n →
    ∃ c : Category, 4 ≤ c.power ∧ Reading a c c.limit ts (operand a n ts)
  /-- Phrases are gone on with at a power. -/
  extend : ∀ {p : Nat} {c : Category} {e : Expr} {x : V} {us : List Token} (rest : List Token),
    p ≤ c.power → e.Written c us → e.value a = some x → Stops c.limit rest →
    2 * rest.length + 1 ≤ n → Reading a (.ofPower p) p (us ++ rest) (extend a n p x rest)

/-- Whatever follows a primary phrase does not belong to it. -/
theorem stops_primary {ts : List Token} : Stops Category.primary.limit ts := by
  intro o _
  cases o <;> decide

/-- Something stands at the front where a power is not stopped. -/
theorem exists_of_not_stops {ts : List Token} (h : ¬ Stops p ts) :
    ∃ o more, ts = .op o :: more ∧ p ≤ o.power := by
  rw [Stops, not_forall] at h
  obtain ⟨o, h⟩ := h
  rw [Classical.not_imp, not_lt, List.head?_eq_some_iff] at h
  obtain ⟨⟨more, rfl⟩, binds⟩ := h
  exact ⟨o, more, rfl, binds⟩

variable {n : Nat}

/-- What is in parentheses is an operand, if the closing one follows. -/
theorem Reading.parens (h : Reading a .expression 0 ts (expression a n 0 ts)) :
    Reading a .primary Category.primary.limit (.opening :: ts)
      (operand a (n + 1) (.opening :: ts)) := by
  rw [operand]
  generalize expression a n 0 ts = r at h
  cases h with
  | @phrase e us rest x written value split _ =>
    subst split
    cases rest with
    | nil => exact .malformed _
    | cons t rest =>
      cases t with
      | closing =>
        have split : Token.opening :: (us ++ .closing :: rest) =
            (.opening :: (us ++ [.closing])) ++ rest := by
          rw [List.cons_append, List.append_assoc, List.singleton_append]
        exact .phrase (.parens written) value split stops_primary
      | _ => exact .malformed _
  | broken breaks => exact .broken breaks.parens
  | malformed cause => exact .malformed cause

/-- A sign and what it stands before are an operand. -/
theorem Reading.neg (h : Reading a .unary 3 ts (expression a n 3 ts)) :
    Reading a .unary Category.unary.limit (.op .sub :: ts)
      (operand a (n + 1) (.op .sub :: ts)) := by
  rw [operand]
  generalize expression a n 3 ts = r at h
  cases h with
  | @phrase e us rest x written value split stops =>
    have negated : (Expr.neg e).value a = some (a.neg x) := by
      rw [Expr.value, value]
      rfl
    exact .phrase (.neg written) negated (congrArg _ split) (stops.mono (by decide))
  | broken breaks => exact .broken breaks.neg
  | malformed cause => exact .malformed cause

namespace Readings

/-- Operands are read if phrases are. -/
theorem operand_succ (h : Readings a n) (ts : List Token) (fuel : 2 * ts.length + 1 ≤ n + 1) :
    ∃ c : Category, 4 ≤ c.power ∧ Reading a c c.limit ts (Calculator.operand a (n + 1) ts) := by
  cases ts with
  | nil => exact ⟨.primary, by decide, .malformed _⟩
  | cons t ts =>
    rw [List.length_cons] at fuel
    cases t with
    | number k => exact ⟨.primary, by decide, .phrase (.number k) rfl rfl stops_primary⟩
    | opening =>
      have inner := h.expression 0 ts (by decide) (by omega)
      exact ⟨.primary, by decide, Reading.parens inner⟩
    | closing => exact ⟨.primary, by decide, .malformed _⟩
    | op o =>
      cases o with
      | sub =>
        have inner := h.expression 3 ts (by decide) (by omega)
        exact ⟨.unary, by decide, Reading.neg inner⟩
      | _ => exact ⟨.primary, by decide, .malformed _⟩

/-- Phrases are gone on with if right operands are read. -/
theorem extend_succ (h : Readings a n) (rest : List Token) (le : p ≤ c.power)
    (written : e.Written c us) (value : e.value a = some x) (stops : Stops c.limit rest)
    (fuel : 2 * rest.length + 1 ≤ n + 1) :
    Reading a (.ofPower p) p (us ++ rest) (Calculator.extend a (n + 1) p x rest) := by
  by_cases ends : Stops p rest
  · rw [extend_of_stops ends]
    exact .phrase (written.widen (Category.power_ofPower le)) value rfl ends
  obtain ⟨o, more, rfl, binds⟩ := exists_of_not_stops ends
  have left : e.Written o.left us := written.widen (Category.power_left (stops o rfl))
  have looser : (Category.ofPower p).power ≤ o.category.power :=
    Category.power_ofPower (o.power_category ▸ binds)
  rw [List.length_cons] at fuel
  have operand := h.expression o.rightPower more (by cases o <;> decide) (by omega)
  rw [Category.ofPower_rightPower] at operand
  rw [extend_op binds]
  generalize Calculator.expression a n o.rightPower more = r at operand
  cases operand with
  | @phrase r vs rest y right value' split stops' =>
    subst split
    rw [List.length_append] at fuel
    simp only [bind, Except.bind]
    split
    · next zero =>
      exact .broken ((BreaksOff.divisor zero.1 left right value' zero.2 stops').widen looser)
    · next divides =>
      have both : (Expr.binary o e r).value a = some (a.combine o x y) := by
        simp [Expr.value, value, value', divides]
      have reading := h.extend rest (o.power_category ▸ binds) (left.binary right) both
        (o.limit_category ▸ stops') (by omega)
      rwa [List.append_assoc] at reading
  | broken breaks => exact .broken ((BreaksOff.right left breaks).widen looser)
  | malformed cause => exact .malformed cause

/-- Phrases are read if operands are and can be gone on with. -/
theorem expression_succ (h : Readings a n) (p : Nat) (ts : List Token) (le : p ≤ 4)
    (fuel : 2 * ts.length + 2 ≤ n + 1) :
    Reading a (.ofPower p) p ts (Calculator.expression a (n + 1) p ts) := by
  obtain ⟨c, unary, read⟩ := h.operand ts (by omega)
  rw [Calculator.expression]
  generalize Calculator.operand a n ts = r at read
  cases read with
  | @phrase e us rest x written value split stops =>
    subst split
    rw [List.length_append] at fuel
    exact h.extend rest (le.trans unary) written value stops (by omega)
  | broken breaks => exact .broken (breaks.widen (Category.power_ofPower (le.trans unary)))
  | malformed cause => exact .malformed cause

end Readings

/-- **`expression`, `operand` and `extend` read what the grammar says**, with any fuel that is
enough. -/
theorem readings (a : Arithmetic V) (n : Nat) : Readings a n := by
  induction n with
  | zero =>
    exact ⟨fun _ _ _ fuel => (Nat.not_succ_le_zero _ fuel).elim,
      fun _ fuel => (Nat.not_succ_le_zero _ fuel).elim,
      fun _ _ _ _ _ fuel => (Nat.not_succ_le_zero _ fuel).elim⟩
  | succ n ih => exact ⟨ih.expression_succ, ih.operand_succ, ih.extend_succ⟩

end Colloquy.Calculator
