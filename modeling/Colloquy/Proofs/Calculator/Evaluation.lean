import Colloquy.Proofs.Calculator.Spelling

/-! # Evaluation of well-formed arithmetic

The evaluator climbs binding powers and evaluates on the way; `Written.reads` says that it takes
what is written of an expression off the front of the tokens and goes on from its value, and
`evaluate_rendered` that a rendering of an expression comes to what the expression does. -/

namespace Colloquy.Calculator

variable {V : Type} {a : Arithmetic V}

/-! ## Categories and powers -/

namespace Category

/-- The greatest power at which phrases of the category are read whole. -/
def power : Category → Nat
  | expression => 1
  | term => 2
  | unary => 4
  | primary => 5

/-- The least power of an operator that would go on with a phrase of the category, or with an
operand at its end. -/
def limit : Category → Nat
  | expression => 2
  | term => 3
  | unary => 4
  | primary => 5

end Category

namespace Operator

/-- The category that the operator makes. -/
def category : Operator → Category
  | add | sub => .expression
  | mul | div | rem => .term
  | pow => .unary

/-- The category of the left operand. -/
def left : Operator → Category
  | add | sub => .expression
  | mul | div | rem => .term
  | pow => .primary

/-- The category of the right operand. -/
def right : Operator → Category
  | add | sub => .term
  | mul | div | rem | pow => .unary

/-- An operator makes phrases that are read whole at its own power. -/
theorem power_category (o : Operator) : o.category.power = o.power := by cases o <;> rfl

/-- So is the left operand. -/
theorem power_le_left (o : Operator) : o.power ≤ o.left.power := by cases o <;> decide

/-- The operator goes on with its left operand. -/
theorem power_lt_limit (o : Operator) : o.power < o.left.limit := by cases o <;> decide

/-- The right operand is read whole. -/
theorem rightPower_le_right (o : Operator) : o.rightPower ≤ o.right.power := by
  cases o <;> decide

/-- What would go on with the right operand would go on with the phrase. -/
theorem limit_category (o : Operator) : o.category.limit = o.rightPower := by cases o <;> rfl

/-- Where the phrase ends, nothing goes on with the right operand. -/
theorem limit_le_right (o : Operator) : o.category.limit ≤ o.right.limit := by cases o <;> decide

end Operator

/-- Whether no operator stands at the front that binds with some power. -/
def Stops (power : Nat) (ts : List Token) : Prop :=
  ∀ o, ts.head? = some (.op o) → o.power < power

/-- What stops a power stops greater ones. -/
theorem Stops.mono {p q : Nat} {ts : List Token} (h : Stops p ts) (le : p ≤ q) : Stops q ts :=
  fun o head => (h o head).trans_le le

/-- No operator binds with a power of three. -/
theorem Stops.three {ts : List Token} (h : Stops 4 ts) : Stops 3 ts := by
  intro o head
  have := h o head
  cases o with
  | pow => exact absurd this (by decide)
  | _ => decide

/-! ## Steps of the evaluator -/

/-- Nothing goes on where it is stopped. -/
theorem extend_of_stops {p : Nat} {ts : List Token} (h : Stops p ts) (n : Nat) (x : V) :
    extend a n p x ts = .ok (x, ts) := by
  cases n with
  | zero => rfl
  | succ n =>
    cases ts with
    | nil => rfl
    | cons t ts =>
      cases t with
      | op o => rw [extend, if_pos (h o rfl)]
      | _ => rfl

/-- An operator that binds goes on with the right operand and is applied. -/
theorem extend_op {p : Nat} {o : Operator} (binds : p ≤ o.power) (n : Nat) (x : V)
    (ts : List Token) :
    extend a (n + 1) p x (.op o :: ts) =
      expression a n o.rightPower ts >>= fun (y, rest) =>
        if o.Divides ∧ a.isZero y = true then .error (.math .divisionByZero)
        else extend a n p (a.combine o x y) rest := by
  rw [extend, if_neg (Nat.not_lt.mpr binds)]
  congr 1
  funext ⟨y, rest⟩
  simp only [a.apply_eq]
  by_cases zero : o.Divides ∧ a.isZero y = true
  · rw [if_pos zero, if_pos zero]
  · rw [if_neg zero, if_neg zero]

/-- Go on from the value of an expression, if it has one. -/
def resume (a : Arithmetic V) (n p : Nat) (rest : List Token) :
    Option V → Except EvalError (V × List Token)
  | none => .error (.math .divisionByZero)
  | some x => extend a n p x rest

/-- Whether tokens at the front are read as an expression of a category, at every power at which
that category is read whole and in front of everything that does not go on with it. -/
def Reads (a : Arithmetic V) (c : Category) (e : Expr) (ts : List Token) : Prop :=
  ∀ {n p : Nat} {rest : List Token}, 2 * (ts ++ rest).length + 2 ≤ n → p ≤ c.power →
    Stops c.limit rest →
    ∃ m, 2 * rest.length + 1 ≤ m ∧
      expression a n p (ts ++ rest) = resume a m p rest (e.value a)

namespace Reads

variable {c c' : Category} {e l r : Expr} {ts us : List Token}

/-- What is read as a phrase of a category is read as one of any looser category. -/
theorem widen (h : Reads a c e ts) (power : c'.power ≤ c.power) (limit : c'.limit ≤ c.limit) :
    Reads a c' e ts :=
  fun fuel le stops => h fuel (le.trans power) (stops.mono limit)

/-- An expression that is read on its own comes to its value. -/
theorem whole (h : Reads a c e ts) {n p : Nat} (rest : List Token)
    (fuel : 2 * (ts ++ rest).length + 2 ≤ n) (le : p ≤ c.power) (limit : Stops c.limit rest)
    (stops : Stops p rest) :
    expression a n p (ts ++ rest) =
      match e.value a with
      | none => .error (.math .divisionByZero)
      | some x => .ok (x, rest) := by
  obtain ⟨m, -, read⟩ := h fuel le limit
  rw [read]
  cases e.value a with
  | none => rfl
  | some x => exact extend_of_stops stops m x

/-- A number is read. -/
theorem number (n : Numeral) : Reads a .primary (.number n) [.number n] := by
  intro k p rest fuel _ _
  rw [List.length_append, List.length_singleton] at fuel
  obtain ⟨k, rfl⟩ := Nat.exists_eq_add_of_le' (show 2 ≤ k by omega)
  exact ⟨k + 1, by omega, rfl⟩

/-- What is in parentheses is read. -/
theorem parens (h : Reads a .expression e ts) :
    Reads a .primary e (.opening :: (ts ++ [.closing])) := by
  intro k p rest fuel _ _
  simp only [List.length_append, List.length_cons, List.length_nil] at fuel
  obtain ⟨k, rfl⟩ := Nat.exists_eq_add_of_le' (show 2 ≤ k by omega)
  have inner := h.whole (n := k) (p := 0) (.closing :: rest)
    (by simp only [List.length_append, List.length_cons]; omega) (Nat.zero_le _) nofun nofun
  refine ⟨k + 1, by omega, ?_⟩
  rw [List.cons_append, List.append_assoc, List.singleton_append, expression, operand, inner]
  cases e.value a <;> rfl

/-- A sign and what it stands before are read. -/
theorem neg (h : Reads a .unary e ts) : Reads a .unary (.neg e) (.op .sub :: ts) := by
  intro k p rest fuel _ stops
  simp only [List.length_append, List.length_cons] at fuel
  obtain ⟨k, rfl⟩ := Nat.exists_eq_add_of_le' (show 2 ≤ k by omega)
  have inner := h.whole (n := k) (p := 3) rest (by rw [List.length_append]; omega) (by decide) stops
    stops.three
  refine ⟨k + 1, by omega, ?_⟩
  rw [List.cons_append, expression, operand, inner, Expr.value]
  cases e.value a <;> rfl

/-- After a left operand, an operator that binds is applied to its value and the right operand's. -/
theorem operator {o : Operator} (left : Reads a o.left l ts) {n p : Nat}
    (fuel : 2 * (ts ++ .op o :: us).length + 2 ≤ n) (le : p ≤ o.power) :
    ∃ m, 2 * us.length + 2 ≤ m ∧
      expression a n p (ts ++ .op o :: us) =
        match l.value a with
        | none => .error (.math .divisionByZero)
        | some x =>
          expression a m o.rightPower us >>= fun (y, rest) =>
            if o.Divides ∧ a.isZero y = true then .error (.math .divisionByZero)
            else extend a m p (a.combine o x y) rest := by
  have goesOn : Stops o.left.limit (.op o :: us) := by
    rintro _ ⟨⟩
    exact o.power_lt_limit
  obtain ⟨m, more, read⟩ := left fuel (le.trans o.power_le_left) goesOn
  rw [List.length_cons] at more
  obtain ⟨m, rfl⟩ := Nat.exists_eq_add_of_le' (show 1 ≤ m by omega)
  refine ⟨m, by omega, ?_⟩
  rw [read]
  cases l.value a with
  | none => rfl
  | some x => exact extend_op le m x us

/-- **Two operands and the operator between them are read** as the grammar groups them. -/
theorem binary (o : Operator) (left : Reads a o.left l ts) (right : Reads a o.right r us) :
    Reads a o.category (.binary o l r) (ts ++ .op o :: us) := by
  intro n p rest fuel le stops
  rw [o.power_category] at le
  rw [List.append_assoc, List.cons_append] at fuel ⊢
  obtain ⟨m, more, read⟩ := left.operator fuel le
  rw [right.whole rest more o.rightPower_le_right (stops.mono o.limit_le_right)
    (o.limit_category ▸ stops)] at read
  rw [List.length_append] at more
  refine ⟨m, by omega, read.trans ?_⟩
  rw [Expr.value]
  cases l.value a with
  | none => rfl
  | some x =>
    cases r.value a with
    | none => rfl
    | some y =>
      by_cases zero : o.Divides ∧ a.isZero y = true <;> simp [zero, resume, bind, Except.bind]

end Reads

/-- **What is written of an expression is read.** -/
theorem Expr.Written.reads {c : Category} {e : Expr} {ts : List Token} (h : e.Written c ts) :
    Reads a c e ts := by
  induction h with
  | number n => exact Reads.number n
  | parens _ ih => exact ih.parens
  | neg _ ih => exact ih.neg
  | pow _ _ ihl ihr => exact Reads.binary .pow ihl ihr
  | product multiplicative _ _ ihl ihr =>
    rcases multiplicative with rfl | rfl | rfl <;> exact Reads.binary _ ihl ihr
  | sum additive _ _ ihl ihr =>
    rcases additive with rfl | rfl <;> exact Reads.binary _ ihl ihr
  | primary _ ih | unary _ ih | term _ ih => exact ih.widen (by decide) (by decide)

/-! ## Whole expressions -/

/-- `evaluateTokens` of the tokens of an expression is its `outcome`. -/
theorem evaluateTokens_of_written {e : Expr} {ts : List Token} (h : e.Written .expression ts) :
    evaluateTokens a ts = e.outcome a := by
  have reads : Reads a .expression e ts := h.reads
  have read := reads.whole (n := 2 * ts.length + 2) (p := 0) []
    (by rw [List.append_nil]) (Nat.zero_le _) nofun nofun
  rw [List.append_nil] at read
  rw [evaluateTokens, read, Expr.outcome]
  cases e.value a <;> rfl

/-- `evaluate` of a rendering of an expression is its `outcome`. -/
theorem evaluate_of_rendered (a : Arithmetic V) {e : Expr} {text : List Char}
    (h : e.Rendered text) : evaluate a text = e.outcome a := by
  obtain ⟨ts, written, spelled⟩ := h
  rw [evaluate, lex_of_spelled spelled written.apart]
  exact evaluateTokens_of_written written

/-- No expression is malformed. -/
theorem Expr.outcome_ne_malformed {e : Expr} (cause : SyntaxError) :
    e.outcome a ≠ .error (.malformed cause) := by
  rw [outcome]
  split
  · exact nofun
  · split <;> exact nofun

/-- An expression comes to a division by zero if it has no value. -/
theorem Expr.outcome_eq_divisionByZero {e : Expr} :
    e.outcome a = .error (.math .divisionByZero) ↔ e.value a = none := by
  rw [outcome]
  split
  · next failed => exact ⟨fun _ => failed, fun _ => rfl⟩
  · next x value =>
    rw [value]
    refine ⟨fun h => ?_, nofun⟩
    split at h <;> cases h

/-- **`evaluate` of a rendering of an expression is what evaluation by recursion on the expression
comes to**: to a division by zero if some divisor is zero, and otherwise to its value, if that is
finite. -/
theorem evaluate_rendered (a : Arithmetic V) {e : Expr} {text : List Char} (h : e.Rendered text) :
    (e.DividesByZero a → evaluate a text = .error (.math .divisionByZero)) ∧
    (¬ e.DividesByZero a → ∃ x, e.value a = some x ∧
      evaluate a text = if a.isFinite x then .ok x else .error (.math .notFinite)) := by
  rw [evaluate_of_rendered a h, Expr.outcome, ← Expr.value_eq_none]
  cases e.value a with
  | none => exact ⟨fun _ => rfl, fun some => absurd rfl some⟩
  | some x => exact ⟨nofun, fun _ => ⟨x, rfl, rfl⟩⟩

/-- Minus two squared, times a difference. -/
def sample : Expr :=
  .binary .mul (.neg (.binary .pow (.number ⟨2, 0⟩) (.number ⟨2, 0⟩)))
    (.binary .sub (.number ⟨5, 1⟩) (.number ⟨3, 0⟩))

/-- The value of the sample, as it is grouped. -/
def sampleValue (a : Arithmetic V) : V :=
  a.mul (a.neg (a.pow (a.literal ⟨2, 0⟩) (a.literal ⟨2, 0⟩)))
    (a.sub (a.literal ⟨5, 1⟩) (a.literal ⟨3, 0⟩))

/-- The sample evaluates as it is grouped, with blanks of any kind between its tokens. -/
theorem evaluate_rendered_sample :
    sample.Rendered "-2^2 *\u3000( .5\t-3.)".toList ∧ ¬ sample.DividesByZero .double ∧
    evaluate .double "-2^2 *\u3000( .5\t-3.)".toList =
      if Arithmetic.double.isFinite (sampleValue .double) then .ok (sampleValue .double)
      else .error (.math .notFinite) := by
  have rendered : sample.Rendered "-2^2 *\u3000( .5\t-3.)".toList := by
    refine ⟨_, .term (.product (.inl rfl) (.unary (.neg (.pow (.number _)
      (.primary (.number _))))) (.primary (.parens (.sum (.inr rfl) (.term (.unary (.primary
      (.number _)))) (.unary (.primary (.number _))))))), spelled_of_lex ?_⟩
    decide +kernel
  have value : sample.value .double = some (sampleValue .double) := rfl
  have divides : ¬ sample.DividesByZero .double := by
    rw [← Expr.value_eq_none, value]
    exact nofun
  refine ⟨rendered, divides, ?_⟩
  obtain ⟨x, same, evaluated⟩ := (evaluate_rendered .double rendered).2 divides
  obtain rfl := Option.some.inj (value.symm.trans same)
  exact evaluated

end Colloquy.Calculator
