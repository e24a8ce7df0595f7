import Colloquy.Agent.Run
import Mathlib.Data.List.Forall2

/-! # Servicing tool calls

What servicing one tool call can come to, case by case (`CallService`), and what servicing the calls
of a response in order amounts to (`Serviced`): the calls are executed one after the other up to the
first fatal outcome, and each execution that is not fatal is answered by one message of role
`tool`.  The main statement is `Agent.serviced_serviceCalls`: the loop over the calls does exactly
that, and its events and messages are those of the executions. -/

namespace Colloquy

/-- An executed tool call. -/
structure Execution (δ : Type) where
  /-- The call. -/
  call : ToolCall
  /-- What the tool was shown. -/
  context : RunContext δ
  /-- What the execution came to. -/
  outcome : Delivery ToolOutcome

namespace ToolCall

/-- Whether a message is the result of a call. -/
def AnsweredBy (c : ToolCall) (m : Message) : Prop := m.role = .tool ∧ m.toolCallId = some c.id

end ToolCall

namespace RoundEnd

/-- How a round ends that a failure may have ended. -/
def ofFailure? {ο : Type} : Option RunError → RoundEnd ο
  | none => .again
  | some e => .failed (.run e)

end RoundEnd

namespace ToolOutcome

/-- The result that the model is shown: a wish for a retry is shown as a failure. -/
def shown : ToolOutcome → ToolResult
  | .ok result => result
  | .error retry => .error retry.message

end ToolOutcome

namespace Execution

variable {δ : Type}

/-- The event that an execution leaves behind. -/
def event (x : Execution δ) : RunEvent δ := .executed x.call x.context x.outcome

/-- The failure that an execution means for its run: it was cut off, asked for a retry on its last
attempt, or crossed the ceiling of tool calls. -/
def failure? (limits : UsageLimits) (x : Execution δ) : Option RunError :=
  match x.outcome.value? with
  | none => some .cancelled
  | some (.error retry) =>
    if x.context.lastAttempt then
      some (.toolRetriesExceeded x.call.name x.context.maxRetries retry.message)
    else none
  | some (.ok _) =>
    match limits.checkToolCalls (x.context.toolCalls + 1) with
    | .error e => some (.usageLimitExceeded e)
    | .ok () => none

/-- The message that answers the call with some outcome. -/
def reply (x : Execution δ) (outcome : ToolOutcome) : Message :=
  (ToolOutcome.shown outcome).toMessage x.call.id

@[simp] theorem reply_role (x : Execution δ) (outcome : ToolOutcome) :
    (x.reply outcome).role = .tool := rfl

@[simp] theorem reply_toolCallId (x : Execution δ) (outcome : ToolOutcome) :
    (x.reply outcome).toolCallId = some x.call.id := rfl

@[simp] theorem reply_toolCalls (x : Execution δ) (outcome : ToolOutcome) :
    (x.reply outcome).toolCalls = [] := rfl

/-- An execution that is cut off is fatal. -/
theorem failure?_of_cut {x : Execution δ} (limits : UsageLimits) (h : x.outcome.value? = none) :
    x.failure? limits = some .cancelled := by
  rw [failure?, h]

end Execution

namespace RunContext

variable {δ : Type}

@[simp] theorem after_messages {α : Type} (c : RunContext δ) (d : Delivery α) :
    (c.after d).messages = c.messages := rfl

@[simp] theorem after_toolCalls {α : Type} (c : RunContext δ) (d : Delivery α) :
    (c.after d).toolCalls = c.toolCalls := rfl

@[simp] theorem after_lastAttempt {α : Type} (c : RunContext δ) (d : Delivery α) :
    (c.after d).lastAttempt = c.lastAttempt := rfl

/-- A run that was not cancelled before an operation is cancelled after it if the operation was. -/
theorem after_cancelled {α : Type} {c : RunContext δ} (h : c.cancelled = false) (d : Delivery α) :
    (c.after d).cancelled = d.cancels := by
  rw [after, h, Bool.false_or]

@[simp] theorem beginCall_messages (c : RunContext δ) (id tool : String) (n : UInt32) :
    (c.beginCall id tool n).messages = c.messages := rfl

@[simp] theorem beginCall_cancelled (c : RunContext δ) (id tool : String) (n : UInt32) :
    (c.beginCall id tool n).cancelled = c.cancelled := rfl

@[simp] theorem push_messages (c : RunContext δ) (m : Message) :
    (c.push m).messages = c.messages ++ [m] := rfl

@[simp] theorem push_cancelled (c : RunContext δ) (m : Message) :
    (c.push m).cancelled = c.cancelled := rfl

end RunContext

namespace Agent

variable {δ σ ο : Type}

/-! ## Folding an outcome into the conversation -/

/-- **A fatal execution ends the run** with its failure and appends nothing. -/
theorem settle_of_failure {limits : UsageLimits} {x : Execution δ} {outcome : ToolOutcome}
    {e : RunError} (delivered : x.outcome.value? = some outcome)
    (fatal : x.failure? limits = some e) :
    (settle limits x.call outcome (x.context.after x.outcome)).1 = .error e ∧
      (settle limits x.call outcome (x.context.after x.outcome)).2.messages =
        x.context.messages := by
  cases outcome with
  | error retry =>
    -- A wish for a retry is fatal on the last attempt only.
    simp only [Execution.failure?, delivered] at fatal
    split at fatal
    · next last =>
      obtain rfl := Option.some.inj fatal
      rw [settle, if_pos (by simpa using last)]
      exact ⟨rfl, rfl⟩
    · cases fatal
  | ok result =>
    -- A result is fatal only if counting it crosses the ceiling, whether it is an error or not.
    simp only [Execution.failure?, delivered] at fatal
    split at fatal
    · next ceiling crossed =>
      obtain rfl := Option.some.inj fatal
      cases flag : result.isError <;>
        simp [settle, flag, RunContext.recordExecution, RunContext.resetRetries, crossed]
    · cases fatal

/-- **An execution that is not fatal is answered** by one message, and the run goes on. -/
theorem settle_of_no_failure {limits : UsageLimits} {x : Execution δ} {outcome : ToolOutcome}
    (delivered : x.outcome.value? = some outcome) (harmless : x.failure? limits = none) :
    (settle limits x.call outcome (x.context.after x.outcome)).1 = .ok () ∧
      (settle limits x.call outcome (x.context.after x.outcome)).2.messages =
        x.context.messages ++ [x.reply outcome] ∧
      (settle limits x.call outcome (x.context.after x.outcome)).2.cancelled =
        (x.context.after x.outcome).cancelled := by
  cases outcome with
  | error retry =>
    simp only [Execution.failure?, delivered] at harmless
    split at harmless
    · cases harmless
    · next attempts =>
      rw [settle, if_neg (by simpa using attempts)]
      exact ⟨rfl, rfl, rfl⟩
  | ok result =>
    simp only [Execution.failure?, delivered] at harmless
    split at harmless
    · cases harmless
    · next within =>
      cases flag : result.isError <;>
        simp [settle, flag, RunContext.recordExecution, RunContext.resetRetries, within,
          RunContext.push, RunContext.endCall, Execution.reply, ToolOutcome.shown]

/-! ## One call -/

/-- A call as a tool of the agent is about to execute it, after `beginCall`, and what comes of it.
-/
def execution (a : Agent δ σ ο) (options : RunOptions) (tool : AgentTool δ σ) (call : ToolCall)
    (p : Progress δ σ) : Execution δ :=
  let context := p.context.beginCall call.id call.name (a.retryBudget options.retries tool)
  ⟨call, context, (tool.execute context call.arguments p.world).1⟩

/-- How far the run has come once a tool has executed a call. -/
def executed (a : Agent δ σ ο) (options : RunOptions) (tool : AgentTool δ σ) (call : ToolCall)
    (p : Progress δ σ) : Progress δ σ :=
  let x := a.execution options tool call p
  { p with
    context := x.context.after x.outcome
    world := (tool.execute x.context call.arguments p.world).2
    events := p.events ++ [x.event] }

/-- What `Agent.serviceCall` can come to. -/
inductive CallService (a : Agent δ σ ο) (options : RunOptions) (call : ToolCall)
    (p : Progress δ σ) : Except RunError Unit × Progress δ σ → Prop where
  /-- The agent has no such tool. -/
  | unknown (missing : a.tool? call.name = none) :
    CallService a options call p (.error (.unknownTool call.name), p)
  /-- The run was cancelled before the tool could start. -/
  | cancelled {tool : AgentTool δ σ} (known : a.tool? call.name = some tool)
    (stopped : p.context.cancelled = true) :
    CallService a options call p
      (.error .cancelled, { p with context := (a.execution options tool call p).context })
  /-- The run was cancelled while the tool worked. -/
  | cut {tool : AgentTool δ σ} (known : a.tool? call.name = some tool)
    (running : p.context.cancelled = false)
    (undelivered : (a.execution options tool call p).outcome.value? = none) :
    CallService a options call p (.error .cancelled, a.executed options tool call p)
  /-- The tool came to an outcome. -/
  | settled {tool : AgentTool δ σ} {outcome : ToolOutcome}
    (known : a.tool? call.name = some tool) (running : p.context.cancelled = false)
    (delivered : (a.execution options tool call p).outcome.value? = some outcome) :
    CallService a options call p
      ((settle options.limits call outcome (a.executed options tool call p).context).1,
        { a.executed options tool call p with
          context :=
            (settle options.limits call outcome (a.executed options tool call p).context).2 })

/-- `Agent.serviceCall` comes to one of the cases of `CallService`. -/
theorem callService_serviceCall (a : Agent δ σ ο) (options : RunOptions) (call : ToolCall)
    (p : Progress δ σ) : CallService a options call p (a.serviceCall options call p) := by
  cases known : a.tool? call.name with
  | none =>
    rw [serviceCall, known]
    exact .unknown known
  | some tool =>
    cases stopped : p.context.cancelled with
    | true =>
      simp only [serviceCall, known, RunContext.beginCall_cancelled, stopped, if_true]
      exact .cancelled known stopped
    | false =>
      simp only [serviceCall, known, RunContext.beginCall_cancelled, stopped]
      -- From here on the tool has been executed, so its event is among those of the run.
      cases delivered : (a.execution options tool call p).outcome.value? with
      | none =>
        have := CallService.cut known stopped delivered
        simp only [execution] at delivered
        simpa [delivered, executed, execution, Execution.event] using this
      | some outcome =>
        have := CallService.settled known stopped delivered
        simp only [execution] at delivered
        simpa [delivered, executed, execution, Execution.event] using this

/-! ## All calls of a response -/

/-- What `Agent.serviceCalls` amounts to: the executions, the messages that answer them, and the
failure that ended it, if there was one.  The flag says whether the run is cancelled by then. -/
inductive Serviced (a : Agent δ σ ο) (limits : UsageLimits) :
    Bool → List ToolCall → List (Execution δ) → List Message → Option RunError → Prop where
  /-- No call is left. -/
  | done (cancelled : Bool) : Serviced a limits cancelled [] [] [] none
  /-- The next call is of a tool that the agent does not have. -/
  | unknown {cancelled : Bool} {call : ToolCall} {rest : List ToolCall}
    (missing : a.tool? call.name = none) :
    Serviced a limits cancelled (call :: rest) [] [] (some (.unknownTool call.name))
  /-- The run is cancelled, so the next call is not executed. -/
  | cancelled {call : ToolCall} {rest : List ToolCall} (known : (a.tool? call.name).isSome) :
    Serviced a limits true (call :: rest) [] [] (some .cancelled)
  /-- The next call is executed, which is fatal. -/
  | fatal {x : Execution δ} {rest : List ToolCall} {e : RunError}
    (known : (a.tool? x.call.name).isSome) (failure : x.failure? limits = some e) :
    Serviced a limits false (x.call :: rest) [x] [] (some e)
  /-- The next call is executed and answered. -/
  | next {x : Execution δ} {outcome : ToolOutcome} {rest : List ToolCall}
    {xs : List (Execution δ)} {ms : List Message} {e : Option RunError}
    (known : (a.tool? x.call.name).isSome) (delivered : x.outcome.value? = some outcome)
    (harmless : x.failure? limits = none)
    (later : Serviced a limits x.outcome.cancels rest xs ms e) :
    Serviced a limits false (x.call :: rest) (x :: xs) (x.reply outcome :: ms) e

namespace Serviced

variable {a : Agent δ σ ο} {limits : UsageLimits} {cancelled : Bool} {calls : List ToolCall}
  {xs : List (Execution δ)} {ms : List Message} {e : Option RunError}

/-- Without a fatal outcome every call is executed. -/
theorem calls_eq (h : Serviced a limits cancelled calls xs ms none) :
    xs.map Execution.call = calls := by
  generalize he : (none : Option RunError) = e at h
  induction h with
  | done => rfl
  | unknown | cancelled | fatal => cases he
  | next _ _ _ _ ih => rw [List.map_cons, ih he]

/-- Every call that is executed is one of a tool that the agent has. -/
theorem known (h : Serviced a limits cancelled calls xs ms e) :
    ∀ x ∈ xs, (a.tool? x.call.name).isSome := by
  induction h with
  | done | unknown | cancelled => simp
  | fatal known => simpa using known
  | next known _ _ _ ih => exact List.forall_mem_cons.mpr ⟨known, ih⟩

/-- Messages of tools ask for no tool calls. -/
theorem toolCalls_eq_nil (h : Serviced a limits cancelled calls xs ms e) :
    ∀ m ∈ ms, m.toolCalls = [] := by
  induction h with
  | done | unknown | cancelled | fatal => simp
  | next _ _ _ _ ih => exact List.forall_mem_cons.mpr ⟨rfl, ih⟩

/-- **Without a fatal outcome the messages answer the calls**, one for each and in their order. -/
theorem answered (h : Serviced a limits cancelled calls xs ms none) :
    List.Forall₂ ToolCall.AnsweredBy calls ms := by
  generalize he : (none : Option RunError) = e at h
  induction h with
  | done => exact .nil
  | unknown | cancelled | fatal => cases he
  | next _ _ _ _ ih => exact .cons ⟨rfl, rfl⟩ (ih he)

end Serviced

/-- **`Agent.serviceCalls` in order**: the loop over the calls of a response executes what
`Serviced` says, leaves the events of those executions and appends the messages that answer them. -/
theorem serviced_serviceCalls (a : Agent δ σ ο) (options : RunOptions) (calls : List ToolCall)
    (p : Progress δ σ) :
    ∃ xs ms e, Serviced a options.limits p.context.cancelled calls xs ms e ∧
      (a.serviceCalls options calls p).1 = RoundEnd.ofFailure? e ∧
      (a.serviceCalls options calls p).2.events = p.events ++ xs.map Execution.event ∧
      (a.serviceCalls options calls p).2.context.messages = p.context.messages ++ ms := by
  induction calls generalizing p with
  | nil => exact ⟨[], [], none, .done _, rfl, by simp [serviceCalls], by simp [serviceCalls]⟩
  | cons call rest ih =>
    have service := a.callService_serviceCall options call p
    rw [serviceCalls]
    generalize a.serviceCall options call p = r at service
    cases service with
    | unknown missing => exact ⟨[], [], _, .unknown missing, rfl, by simp, by simp⟩
    | cancelled known stopped =>
      rw [stopped]
      exact ⟨[], [], _, .cancelled (by simp [known]), rfl, by simp, by simp [execution]⟩
    | @cut tool known running undelivered =>
      rw [running]
      exact ⟨[a.execution options tool call p], [], _,
        .fatal (by simp [execution, known]) (Execution.failure?_of_cut _ undelivered), rfl,
        by simp [executed], by simp [executed, execution]⟩
    | @settled tool outcome known running delivered =>
      rw [running]
      -- The rest is serviced from where this execution leaves the run, unless it is fatal.
      set x := a.execution options tool call p with hx
      have hcall : x.call = call := rfl
      have hcontext : (a.executed options tool call p).context = x.context.after x.outcome := rfl
      have known' : (a.tool? x.call.name).isSome := by rw [hcall, known]; rfl
      cases failure : x.failure? options.limits with
      | some e =>
        obtain ⟨failed, kept⟩ := settle_of_failure delivered failure
        rw [hcontext, ← hcall, failed]
        refine ⟨[x], [], some e, .fatal known' failure, rfl, rfl, ?_⟩
        rw [List.append_nil]
        exact kept
      | none =>
        obtain ⟨passed, replied, flag⟩ := settle_of_no_failure delivered failure
        rw [hcontext, ← hcall, passed]
        obtain ⟨xs, ms, e, serviced, ends, events, messages⟩ := ih
          { a.executed options tool call p with
            context := (settle options.limits x.call outcome (x.context.after x.outcome)).2 }
        refine ⟨x :: xs, x.reply outcome :: ms, e, .next known' delivered failure ?_, ends, ?_, ?_⟩
        · -- The run was not cancelled before, so it is now if the tool was cancelled.
          have : (x.context.after x.outcome).cancelled = x.outcome.cancels :=
            RunContext.after_cancelled running x.outcome
          rwa [flag, this] at serviced
        · rw [List.map_cons, List.append_cons]
          exact events
        · rw [List.append_cons]
          rw [replied] at messages
          exact messages

end Agent

end Colloquy
