import Colloquy.Agent.Tool

/-! # Invoking tools

A call of a typed tool passes several checks, each of which can fail.  Arguments that are refused,
and a handler that wishes for it, have the model try again; every other failure is shown to the
model as a result.  `TypedHandler.Invocation` says which failure takes which way,
`TypedHandler.execute_recorded` how often the handler runs, and `AgentTool.Passage` what becomes of
the answer of a tool of bare arguments. -/

namespace Colloquy

namespace Delivery

variable {α β : Type}

@[simp] theorem value?_map (f : α → β) (d : Delivery α) : (d.map f).value? = d.value?.map f := by
  cases d <;> rfl

end Delivery

namespace TypedHandler

variable {δ σ ι ο : Type} {h : TypedHandler δ σ ι ο} {context : RunContext δ}
  {arguments : List (String × Json)} {world : σ}

/-! ## Arguments -/

/-- The arguments are accepted as an input: they satisfy the schema and are decoded to it. -/
def Accepts (h : TypedHandler δ σ ι ο) (arguments : List (String × Json)) (a : ι) : Prop :=
  h.inputSchema.check (.obj arguments) = .ok () ∧ h.decode (.obj arguments) = .ok a

/-- The arguments are refused, with a wish for a retry that says why. -/
inductive Refuses (h : TypedHandler δ σ ι ο) (arguments : List (String × Json)) :
    ModelRetry → Prop where
  /-- They violate the schema. -/
  | invalid {e : SchemaError} (violation : h.inputSchema.check (.obj arguments) = .error e) :
    Refuses h arguments ⟨"Invalid tool input: " ++ e.message⟩
  /-- They satisfy the schema and cannot be decoded. -/
  | undecodable {reason : String} (valid : h.inputSchema.check (.obj arguments) = .ok ())
    (failure : h.decode (.obj arguments) = .error reason) :
    Refuses h arguments ⟨"Failed to parse tool input: " ++ reason⟩

/-- Accepted arguments stand for their input. -/
theorem Accepts.input_eq {a : ι} (accepts : h.Accepts arguments a) : h.input arguments = .ok a := by
  simp only [input, accepts.1, accepts.2]

/-- Refused arguments stand for no input. -/
theorem Refuses.input_eq {r : ModelRetry} (refuses : h.Refuses arguments r) :
    h.input arguments = .error r := by
  cases refuses with
  | invalid violation => simp only [input, violation]
  | undecodable valid failure => simp only [input, valid, failure]

/-- **Arguments are accepted or refused.** -/
theorem accepts_or_refuses (h : TypedHandler δ σ ι ο) (arguments : List (String × Json)) :
    (∃ a, h.Accepts arguments a) ∨ ∃ r, h.Refuses arguments r := by
  cases checked : h.inputSchema.check (.obj arguments) with
  | error e => exact .inr ⟨_, .invalid checked⟩
  | ok valid =>
    cases decoded : h.decode (.obj arguments) with
    | error reason => exact .inr ⟨_, .undecodable checked decoded⟩
    | ok a => exact .inl ⟨a, checked, decoded⟩

/-- `input` is the input as which the arguments are accepted. -/
theorem input_eq_ok {a : ι} : h.input arguments = .ok a ↔ h.Accepts arguments a := by
  refine ⟨fun input => ?_, Accepts.input_eq⟩
  rcases h.accepts_or_refuses arguments with ⟨b, accepts⟩ | ⟨r, refuses⟩
  · exact Except.ok.inj (accepts.input_eq.symm.trans input) ▸ accepts
  · exact nomatch refuses.input_eq.symm.trans input

/-- `input` fails if the arguments are refused. -/
theorem input_eq_error {r : ModelRetry} : h.input arguments = .error r ↔ h.Refuses arguments r := by
  refine ⟨fun input => ?_, Refuses.input_eq⟩
  rcases h.accepts_or_refuses arguments with ⟨b, accepts⟩ | ⟨s, refuses⟩
  · exact nomatch accepts.input_eq.symm.trans input
  · exact Except.error.inj (refuses.input_eq.symm.trans input) ▸ refuses

/-! ## Answers -/

/-- The handler's answer is an output that is encoded as a value, which satisfies the schema. -/
def Succeeds (h : TypedHandler δ σ ι ο) (answer : Except ToolError ο) (v : Json) : Prop :=
  ∃ output, answer = .ok output ∧ h.encode output = .ok v ∧ h.outputSchema.check v = .ok ()

/-- The handler's answer is a failure that the model is shown, in some words. -/
inductive Fails (h : TypedHandler δ σ ι ο) : Except ToolError ο → String → Prop where
  /-- The handler fails and does not ask for a retry. -/
  | handler {e : ToolError} (other : ∀ r, e ≠ .retry r) :
    Fails h (.error e) ("Tool execution error: " ++ e.message)
  /-- The output cannot be encoded. -/
  | encoding {output : ο} {reason : String} (failure : h.encode output = .error reason) :
    Fails h (.ok output) ("Failed to encode tool output: " ++ reason)
  /-- The encoded output violates the schema. -/
  | invalid {output : ο} {v : Json} {e : SchemaError} (encoded : h.encode output = .ok v)
    (violation : h.outputSchema.check v = .error e) :
    Fails h (.ok output) ("Invalid tool output: " ++ e.message)

/-- A success is shown as the value. -/
theorem Succeeds.outcome_eq {answer : Except ToolError ο} {v : Json}
    (succeeds : h.Succeeds answer v) : h.outcome answer = .ok (.structured v) := by
  obtain ⟨output, rfl, encoded, valid⟩ := succeeds
  simp only [outcome, result, encoded, valid]

/-- A failure is shown as its words. -/
theorem Fails.outcome_eq {answer : Except ToolError ο} {text : String}
    (fails : h.Fails answer text) : h.outcome answer = .ok (.error text) := by
  cases fails with
  | @handler e other =>
    cases e with
    | retry r => exact absurd rfl (other r)
    | _ => rfl
  | encoding failure => simp only [outcome, result, failure]
  | invalid encoded violation => simp only [outcome, result, encoded, violation]

/-- **An answer is a wish for a retry, a success or a failure.** -/
theorem answer_cases (h : TypedHandler δ σ ι ο) (answer : Except ToolError ο) :
    (∃ r, answer = .error (.retry r)) ∨ (∃ v, h.Succeeds answer v) ∨
      ∃ text, h.Fails answer text := by
  cases answer with
  | error e =>
    by_cases wish : ∃ r, e = .retry r
    · obtain ⟨r, rfl⟩ := wish
      exact .inl ⟨r, rfl⟩
    · exact .inr (.inr ⟨_, .handler (not_exists.mp wish)⟩)
  | ok output =>
    refine .inr ?_
    cases encoded : h.encode output with
    | error reason => exact .inr ⟨_, .encoding encoded⟩
    | ok v =>
      cases checked : h.outputSchema.check v with
      | error e => exact .inr ⟨_, .invalid encoded checked⟩
      | ok valid => exact .inl ⟨v, output, rfl, encoded, checked⟩

/-- `outcome` is a wish for a retry if the handler asks for it. -/
theorem outcome_eq_error {answer : Except ToolError ο} {r : ModelRetry} :
    h.outcome answer = .error r ↔ answer = .error (.retry r) := by
  refine ⟨fun outcome => ?_, fun wish => wish ▸ rfl⟩
  rcases h.answer_cases answer with ⟨s, rfl⟩ | ⟨v, succeeds⟩ | ⟨text, fails⟩
  · exact congrArg (Except.error ∘ ToolError.retry) (Except.error.inj outcome)
  · exact nomatch succeeds.outcome_eq.symm.trans outcome
  · exact nomatch fails.outcome_eq.symm.trans outcome

/-- `outcome` is a result if the answer is a success or a failure, and the result shows which. -/
theorem outcome_eq_ok {answer : Except ToolError ο} {shown : ToolResult} :
    h.outcome answer = .ok shown ↔
      (∃ v, h.Succeeds answer v ∧ shown = .structured v) ∨
        ∃ text, h.Fails answer text ∧ shown = .error text := by
  constructor
  · intro outcome
    rcases h.answer_cases answer with ⟨s, rfl⟩ | ⟨v, succeeds⟩ | ⟨text, fails⟩
    · cases outcome
    · exact .inl ⟨v, succeeds, (Except.ok.inj (succeeds.outcome_eq.symm.trans outcome)).symm⟩
    · exact .inr ⟨text, fails, (Except.ok.inj (fails.outcome_eq.symm.trans outcome)).symm⟩
  · rintro (⟨v, succeeds, rfl⟩ | ⟨text, fails, rfl⟩)
    · exact succeeds.outcome_eq
    · exact fails.outcome_eq

/-! ## Calls -/

/-- The arguments are accepted and the handler, run on them, delivers an answer; or none, if it is
cut off. -/
def Answers (h : TypedHandler δ σ ι ο) (context : RunContext δ) (arguments : List (String × Json))
    (world : σ) (answer : Option (Except ToolError ο)) : Prop :=
  ∃ a, h.Accepts arguments a ∧ (h.handle context a world).1.value? = answer

/-- **What `execute` comes to** is the refusal of the arguments or what becomes of the handler's
answer. -/
theorem value?_execute {outcome : ToolOutcome} :
    (h.execute context arguments world).1.value? = some outcome ↔
      (∃ r, h.Refuses arguments r ∧ .error r = outcome) ∨
        ∃ answer, h.Answers context arguments world (some answer) ∧ h.outcome answer = outcome := by
  simp only [Answers, ← input_eq_ok, ← input_eq_error, execute]
  cases h.input arguments with
  | error r => simp [Delivery.value?]
  | ok a => simp

/-- `execute` comes to nothing if the handler is cut off. -/
theorem value?_execute_eq_none :
    (h.execute context arguments world).1.value? = none ↔
      h.Answers context arguments world none := by
  simp only [Answers, ← input_eq_ok, execute]
  cases h.input arguments with
  | error r => simp [Delivery.value?]
  | ok a => simp

/-- The handler, keeping a record of its runs: the context and the input of each, in order. -/
def recorded (h : TypedHandler δ σ ι ο) :
    TypedHandler δ (σ × List (RunContext δ × ι)) ι ο :=
  { h with
    handle := fun context a (world, runs) =>
      let (answer, world) := h.handle context a world
      (answer, world, runs ++ [(context, a)]) }

/-- Whatever a record says, the same arguments are accepted. -/
theorem recorded_input (h : TypedHandler δ σ ι ο) :
    h.recorded.input arguments = h.input arguments := rfl

/-- **A record of the handler's runs** changes nothing about a call, and the call adds a run with
its own context and the accepted input, or none if its arguments are refused. -/
theorem execute_recorded (runs : List (RunContext δ × ι)) :
    ∃ more,
      h.recorded.execute context arguments (world, runs) =
        ((h.execute context arguments world).1, (h.execute context arguments world).2,
          runs ++ more) ∧
      ((∃ a, h.Accepts arguments a ∧ more = [(context, a)]) ∨
        (∃ r, h.Refuses arguments r) ∧ more = []) := by
  simp only [← input_eq_ok, ← input_eq_error, execute, recorded_input]
  cases h.input arguments with
  | error r => exact ⟨[], by simp, .inr ⟨⟨r, rfl⟩, rfl⟩⟩
  | ok a => exact ⟨[(context, a)], rfl, .inl ⟨a, rfl, rfl⟩⟩

/-- What a call of a typed tool comes to, or that it comes to nothing. -/
structure Invocation (h : TypedHandler δ σ ι ο) (context : RunContext δ)
    (arguments : List (String × Json)) (world : σ) (comes : Option ToolOutcome) : Prop where
  /-- The model is to try again if its arguments are refused or the handler asks for it. -/
  retry : ∀ r, comes = some (.error r) ↔
    h.Refuses arguments r ∨ h.Answers context arguments world (some (.error (.retry r)))
  /-- A result without the error flag is the encoded output of the handler, which satisfies the
  schema; its content is the compact text of that. -/
  success : ∀ shown, (comes = some (.ok shown) ∧ shown.isError = false) ↔
    ∃ answer v, h.Answers context arguments world (some answer) ∧ h.Succeeds answer v ∧
      shown = ⟨[.text v.compact], some v, false⟩
  /-- A result with the error flag reports a failure, and has no structured content. -/
  failure : ∀ shown, (comes = some (.ok shown) ∧ shown.isError = true) ↔
    ∃ answer text, h.Answers context arguments world (some answer) ∧ h.Fails answer text ∧
      shown = ⟨[.text text], none, true⟩
  /-- The call comes to nothing only if the handler is cut off. -/
  cut : comes = none ↔ h.Answers context arguments world none

/-- A call has a result if the handler's answer is a success or a failure. -/
theorem value?_execute_eq_ok {shown : ToolResult} :
    (h.execute context arguments world).1.value? = some (.ok shown) ↔
      ∃ answer, h.Answers context arguments world (some answer) ∧
        ((∃ v, h.Succeeds answer v ∧ shown = .structured v) ∨
          ∃ text, h.Fails answer text ∧ shown = .error text) := by
  simp [value?_execute, outcome_eq_ok]

/-- **Every call of a typed tool comes to what the contract says.** -/
theorem invocation_execute (h : TypedHandler δ σ ι ο) (context : RunContext δ)
    (arguments : List (String × Json)) (world : σ) :
    h.Invocation context arguments world (h.execute context arguments world).1.value? := by
  constructor
  case retry =>
    intro r
    simp [value?_execute, outcome_eq_error]
  case success =>
    intro shown
    rw [value?_execute_eq_ok]
    constructor
    · rintro ⟨⟨answer, answers, ⟨v, succeeds, rfl⟩ | ⟨text, fails, rfl⟩⟩, unflagged⟩
      · exact ⟨answer, v, answers, succeeds, rfl⟩
      · cases unflagged
    · rintro ⟨answer, v, answers, succeeds, rfl⟩
      exact ⟨⟨answer, answers, .inl ⟨v, succeeds, rfl⟩⟩, rfl⟩
  case failure =>
    intro shown
    rw [value?_execute_eq_ok]
    constructor
    · rintro ⟨⟨answer, answers, ⟨v, succeeds, rfl⟩ | ⟨text, fails, rfl⟩⟩, flagged⟩
      · cases flagged
      · exact ⟨answer, text, answers, fails, rfl⟩
    · rintro ⟨answer, text, answers, fails, rfl⟩
      exact ⟨⟨answer, answers, .inr ⟨text, fails, rfl⟩⟩, rfl⟩
  case cut => exact value?_execute_eq_none

end TypedHandler

namespace AgentTool

variable {δ σ τ ι ο : Type}

/-- What becomes of the answer of a tool of bare arguments, or of its being cut off. -/
structure Passage (answer : Option (Except ToolError ToolResult)) (comes : Option ToolOutcome) :
    Prop where
  /-- A result passes, whatever its flag. -/
  result : ∀ shown, answer = some (.ok shown) → comes = some (.ok shown)
  /-- A wish for a retry passes, and nothing else becomes one. -/
  retry : ∀ r, comes = some (.error r) ↔ answer = some (.error (.retry r))
  /-- Any other failure becomes a result with the error flag that reports it. -/
  failure : ∀ e, (∀ r, e ≠ .retry r) → answer = some (.error e) →
    comes = some (.ok ⟨[.text e.message], none, true⟩)
  /-- The call comes to nothing only if it is cut off. -/
  cut : comes = none ↔ answer = none

/-- `externalOutcome` makes of an answer what the contract says. -/
theorem passage_externalOutcome (answer : Option (Except ToolError ToolResult)) :
    Passage answer (answer.map externalOutcome) := by
  constructor
  case result =>
    rintro shown rfl
    rfl
  case retry =>
    intro r
    rw [Option.map_eq_some_iff]
    constructor
    · rintro ⟨given, rfl, outcome⟩
      cases given with
      | ok shown => cases outcome
      | error e =>
        cases e with
        | retry s =>
          exact congrArg (some ∘ Except.error ∘ ToolError.retry) (Except.error.inj outcome)
        | _ => cases outcome
    · rintro rfl
      exact ⟨_, rfl, rfl⟩
  case failure =>
    rintro e other rfl
    cases e with
    | retry r => exact absurd rfl (other r)
    | _ => rfl
  case cut => exact Option.map_eq_none_iff

/-- **Only a wish for a retry escapes a tool as an error.**  A typed tool runs its handler at most
once, and only on accepted arguments; every failure of a tool takes the way that `Invocation` or
`Passage` gives it. -/
theorem invocation_contract (name description : String) (h : TypedHandler δ σ ι ο)
    (definition : ToolDefinition)
    (call : List (String × Json) → τ → Delivery (Except ToolError ToolResult) × τ)
    (context : RunContext δ) (arguments : List (String × Json)) (world : σ) (outside : τ) :
    (∀ runs, ∃ more,
      (typed name description h.recorded).execute context arguments (world, runs) =
        (((typed name description h).execute context arguments world).1,
          ((typed name description h).execute context arguments world).2, runs ++ more) ∧
      ((∃ a, h.Accepts arguments a ∧ more = [(context, a)]) ∨
        (∃ r, h.Refuses arguments r) ∧ more = [])) ∧
    h.Invocation context arguments world
      ((typed name description h).execute context arguments world).1.value? ∧
    Passage (call arguments outside).1.value?
      ((external definition call).execute context arguments outside).1.value? := by
  refine ⟨TypedHandler.execute_recorded, h.invocation_execute context arguments world, ?_⟩
  have comes : ((external definition call).execute context arguments outside).1.value? =
      (call arguments outside).1.value?.map externalOutcome :=
    Delivery.value?_map externalOutcome (call arguments outside).1
  rw [comes]
  exact passage_externalOutcome _

end AgentTool

end Colloquy
