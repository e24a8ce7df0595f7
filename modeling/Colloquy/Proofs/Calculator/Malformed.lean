import Colloquy.Calculator.Tool
import Colloquy.Proofs.Calculator.Reading

/-! # Malformed arithmetic

How texts are sorted by what evaluating them comes to.  A division by zero hides whatever follows
it, so a malformed text is reported as malformed exactly if it does not break early: no divisor is
zero of which the end comes before the fault (`faults_classified`). -/

namespace Colloquy.Calculator

variable {V : Type} {a : Arithmetic V}

/-- Whether a divisor in a text is zero, with nothing before its end that is malformed. -/
def BreaksEarly (a : Arithmetic V) (text : List Char) : Prop :=
  ∃ ts, lex text = .ok ts ∧ BreaksOff a .expression ts

/-! ## What evaluation comes to -/

/-- What `evaluate a text` comes to. -/
inductive Evaluated (a : Arithmetic V) (text : List Char) : Except EvalError V → Prop where
  /-- It renders an expression with a finite value. -/
  | finite {e : Expr} {x : V} (rendered : e.Rendered text) (value : e.value a = some x)
    (finite : a.isFinite x = true) : Evaluated a text (.ok x)
  /-- It renders an expression whose value is not finite. -/
  | infinite {e : Expr} {x : V} (rendered : e.Rendered text) (value : e.value a = some x)
    (infinite : a.isFinite x = false) : Evaluated a text (.error (.math .notFinite))
  /-- A divisor in it is zero. -/
  | broken (early : BreaksEarly a text) : Evaluated a text (.error (.math .divisionByZero))
  /-- It is malformed. -/
  | malformed (cause : SyntaxError) : Evaluated a text (.error (.malformed cause))

/-- **Evaluation comes to a number or to one that is not finite only for renderings of expressions
that have this value, and to a division by zero only for texts that break early.** -/
theorem evaluated (a : Arithmetic V) (text : List Char) : Evaluated a text (evaluate a text) := by
  rw [evaluate]
  split
  · exact .malformed _
  · next ts lexed =>
    have reading := (readings a (2 * ts.length + 2)).expression 0 ts (by decide) le_rfl
    rw [evaluateTokens]
    generalize expression a (2 * ts.length + 2) 0 ts = r at reading
    cases reading with
    | @phrase e us rest x written value split _ =>
      cases rest with
      | nil =>
        rw [List.append_nil] at split
        subst split
        have rendered : e.Rendered text := ⟨ts, written, spelled_of_lex lexed⟩
        change Evaluated a text (if a.isFinite x then .ok x else .error (.math .notFinite))
        split
        · next finite => exact .finite rendered value finite
        · next infinite => exact .infinite rendered value (Bool.eq_false_iff.mpr infinite)
      | cons => exact .malformed _
    | broken breaks => exact .broken ⟨ts, lexed, breaks⟩
    | malformed cause => exact .malformed cause

variable {text : List Char}

/-- What is found to be malformed is. -/
theorem not_wellFormed {cause : SyntaxError} (h : evaluate a text = .error (.malformed cause)) :
    ¬ WellFormed text := by
  rintro ⟨e, rendered⟩
  rw [evaluate_of_rendered a rendered] at h
  exact e.outcome_ne_malformed cause h

/-- **`evaluate` reports a division by zero for the texts that break early**, well-formed or not. -/
theorem evaluate_eq_divisionByZero :
    evaluate a text = .error (.math .divisionByZero) ↔ BreaksEarly a text := by
  constructor
  · intro divides
    have came := evaluated a text
    rw [divides] at came
    cases came with
    | broken early => exact early
  · rintro ⟨ts, lexed, front, rest, rfl, breaks, other⟩
    rw [evaluate, lexed]
    simp only [evaluateTokens]
    rw [breaks.fails le_rfl (Nat.zero_le _) other]
    rfl

/-- A well-formed text breaks early exactly if its expression divides by zero. -/
theorem breaksEarly_iff_dividesByZero {e : Expr} (h : e.Rendered text) :
    BreaksEarly a text ↔ e.DividesByZero a := by
  rw [← evaluate_eq_divisionByZero, evaluate_of_rendered a h, Expr.outcome_eq_divisionByZero,
    Expr.value_eq_none]

/-- **`evaluate` reports a malformed text as malformed exactly if it does not break early.** -/
theorem evaluate_eq_malformed :
    (∃ cause, evaluate a text = .error (.malformed cause)) ↔
      ¬ WellFormed text ∧ ¬ BreaksEarly a text := by
  constructor
  · rintro ⟨cause, malformed⟩
    refine ⟨not_wellFormed malformed, fun early => ?_⟩
    rw [evaluate_eq_divisionByZero.mpr early] at malformed
    cases malformed
  · rintro ⟨ill, late⟩
    have came := evaluated a text
    generalize evaluate a text = r at came
    cases came with
    | finite rendered | infinite rendered => exact absurd ⟨_, rendered⟩ ill
    | broken early => exact absurd early late
    | malformed cause => exact ⟨cause, rfl⟩

/-- That a value is not finite is reported for well-formed texts only, of which it is true. -/
theorem evaluate_eq_notFinite :
    evaluate a text = .error (.math .notFinite) ↔
      ∃ e : Expr, e.Rendered text ∧ ∃ x, e.value a = some x ∧ a.isFinite x = false := by
  constructor
  · intro reported
    have came := evaluated a text
    rw [reported] at came
    cases came with
    | infinite rendered value infinite => exact ⟨_, rendered, _, value, infinite⟩
  · rintro ⟨e, rendered, x, value, infinite⟩
    rw [evaluate_of_rendered a rendered, Expr.outcome, value]
    simp only [infinite, Bool.false_eq_true, if_false]

/-! ## Deciding form -/

/-- Arithmetic of a single number, which is finite and not zero, so that only form matters. -/
def Arithmetic.single : Arithmetic Unit where
  literal _ := ()
  neg _ := ()
  add _ _ := ()
  sub _ _ := ()
  mul _ _ := ()
  div _ _ := ()
  rem _ _ := ()
  pow _ _ := ()
  isZero _ := false
  isFinite _ := true

/-- No divisor is zero where nothing is. -/
theorem not_dividesByZero_single (e : Expr) : ¬ e.DividesByZero .single := by
  intro h
  induction h with
  | here _ _ zero => cases zero
  | neg _ ih | left _ ih | right _ ih => exact ih

/-- A text is well-formed if `evaluate .single` succeeds. -/
theorem wellFormed_iff : WellFormed text ↔ evaluate .single text = .ok () := by
  constructor
  · rintro ⟨e, rendered⟩
    rw [evaluate_of_rendered _ rendered, Expr.outcome]
    split
    · next failed => exact absurd (Expr.value_eq_none.mp failed) (not_dividesByZero_single e)
    · rfl
  · intro fine
    have came := evaluated .single text
    rw [fine] at came
    cases came with
    | finite rendered => exact ⟨_, rendered⟩

instance : Decidable (WellFormed text) :=
  decidable_of_iff (evaluate .single text = .ok ()) wellFormed_iff.symm

/-! ## Reports -/

/-- `execute` asks for a retry exactly if it is given an expression that is found to be malformed.
-/
theorem execute_eq_retry {arguments : List (String × Json)} :
    (∃ retry, execute arguments = .error (.retry retry)) ↔
      ∃ expression, (Json.lookup "expression" arguments).bind Json.asString? = some expression ∧
        ∃ cause, evaluate .double expression.toList = .error (.malformed cause) := by
  rw [execute]
  cases given : (Json.lookup "expression" arguments).bind Json.asString? with
  | none => simp
  | some expression =>
    rcases came : evaluate .double expression.toList with (cause | cause) | x <;> simp [came]

/-- **`evaluate` sorts every text by its form, but for divisions by zero that come first**: it is
reported as malformed exactly if it is malformed and does not break early; a division by zero is
reported exactly if it breaks early; that the value is not finite is reported exactly if it is
well-formed and has such a value.  `execute` asks for a retry exactly if it is given an expression
of the first kind. -/
theorem faults_classified (a : Arithmetic V) (text : List Char)
    (arguments : List (String × Json)) :
    ((∃ cause, evaluate a text = .error (.malformed cause)) ↔
      ¬ WellFormed text ∧ ¬ BreaksEarly a text) ∧
    (evaluate a text = .error (.math .divisionByZero) ↔ BreaksEarly a text) ∧
    (evaluate a text = .error (.math .notFinite) ↔
      ∃ e : Expr, e.Rendered text ∧ ∃ x, e.value a = some x ∧ a.isFinite x = false) ∧
    ((∃ retry, execute arguments = .error (.retry retry)) ↔
      ∃ expression, (Json.lookup "expression" arguments).bind Json.asString? = some expression ∧
        ¬ WellFormed expression.toList ∧ ¬ BreaksEarly .double expression.toList) := by
  refine ⟨evaluate_eq_malformed, evaluate_eq_divisionByZero, evaluate_eq_notFinite, ?_⟩
  simp only [execute_eq_retry, evaluate_eq_malformed]

/-- **A division by zero hides that its parenthesis is not closed**: the text is malformed, and yet
a division by zero is reported, by the tool as a result. -/
theorem evaluate_unclosed :
    ¬ WellFormed "(1/0".toList ∧
      evaluate .double "(1/0".toList = .error (.math .divisionByZero) ∧
      execute [("expression", .str "(1/0")] = .ok (.error "Error: division by zero") := by
  have divides : evaluate .double "(1/0".toList = .error (.math .divisionByZero) := by
    decide +kernel
  have given : (Json.lookup "expression" [("expression", .str "(1/0")]).bind Json.asString? =
      some "(1/0" := rfl
  refine ⟨by decide +kernel, divides, ?_⟩
  simp only [execute, given, divides]
  rfl

end Colloquy.Calculator
