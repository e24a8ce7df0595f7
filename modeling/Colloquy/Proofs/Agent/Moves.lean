import Colloquy.Proofs.Agent.Retries
import Colloquy.Proofs.Place
import Colloquy.Proofs.Usage
import Mathlib.Logic.Relation

/-! # Moves of runs

Seen from outside, a run makes moves of two kinds: it sends a request, or it executes a tool call.
`Standing` is what a move can change, `Agent.Move` says what each kind needs and does, and
`Agent.moves_run` is that a run comes to its end by moves only.  What every move keeps holds of
every run: `Standing.Sound` says that the counts of a run are those of its events, that executions
were shown them, and that nothing was started once the run was cancelled. -/

namespace Colloquy

namespace RunEvent

variable {δ : Type}

/-- Whether an event is a request. -/
def isRequest : RunEvent δ → Bool
  | requested _ _ => true
  | executed _ _ _ => false

/-- Whether the run is cancelled once an event is over. -/
def cancels : RunEvent δ → Bool
  | requested _ answer => answer.cancels
  | executed _ _ outcome => outcome.cancels

end RunEvent

namespace Execution

variable {δ : Type} {x : Execution δ}

/-- Whether an execution came to a result, be it one that reports a failure. -/
def returns (x : Execution δ) : Bool :=
  match x.outcome.value? with
  | some (.ok _) => true
  | _ => false

@[simp] theorem isRequest_event : x.event.isRequest = false := rfl

end Execution

/-- What the moves of a run can change. -/
structure Standing (δ σ : Type) where
  /-- What the run did. -/
  events : List (RunEvent δ)
  /-- The world. -/
  world : σ
  /-- The requests that were counted. -/
  requests : Nat
  /-- The tool executions that were counted. -/
  toolCalls : Nat
  /-- Whether the run is cancelled. -/
  cancelled : Bool

/-- How a run stands where it has come to. -/
def Progress.standing {δ σ : Type} (p : Progress δ σ) : Standing δ σ :=
  ⟨p.events, p.world, p.context.requests, p.context.toolCalls, p.context.cancelled⟩

namespace Standing

variable {δ σ : Type}

/-- The executions of a run so far. -/
def executions (s : Standing δ σ) : List (Execution δ) := s.events.filterMap RunEvent.execution?

/-- After a request that came to an answer and a world. -/
def requested (s : Standing δ σ) (request : ChatRequest)
    (came : Delivery (Except ProviderError ChatResponse) × σ) : Standing δ σ where
  events := s.events ++ [.requested request came.1]
  world := came.2
  requests := s.requests + 1
  toolCalls := s.toolCalls
  cancelled := came.1.cancels

/-- After the execution of a call that came to an outcome and a world. -/
def executed (s : Standing δ σ) (call : ToolCall) (context : RunContext δ)
    (came : Delivery ToolOutcome × σ) : Standing δ σ where
  events := s.events ++ [.executed call context came.1]
  world := came.2
  requests := s.requests
  toolCalls := s.toolCalls + if Execution.returns ⟨call, context, came.1⟩ then 1 else 0
  cancelled := came.1.cancels

end Standing

namespace Agent

variable {δ σ ο : Type}

/-- What a run may do next, as seen from outside. -/
inductive Move (a : Agent δ σ ο) (limits : UsageLimits) (s : Standing δ σ) :
    Standing δ σ → Prop where
  /-- It sends a request, if it is not cancelled and its ceiling has room for one. -/
  | request (request : ChatRequest) (running : s.cancelled = false)
    (allowed : limits.checkBeforeRequest s.requests = .ok ()) :
    Move a limits s (s.requested request (a.complete request s.world))
  /-- It executes a call of a tool that it has, if it is not cancelled. -/
  | execution {tool : AgentTool δ σ} (call : ToolCall) (context : RunContext δ)
    (running : s.cancelled = false) (known : a.tool? call.name = some tool)
    (shown : context.toolCalls = s.toolCalls ∧ context.cancelled = false) :
    Move a limits s (s.executed call context (tool.execute context call.arguments s.world))

/-- One standing is reached from another by moves. -/
abbrev Moves (a : Agent δ σ ο) (limits : UsageLimits) : Standing δ σ → Standing δ σ → Prop :=
  Relation.ReflTransGen (Move a limits)

/-! ## Moves of the run loop -/

/-- `Agent.settle` counts a result, and touches neither the requests nor the tokens nor the
cancellation. -/
theorem settle_frame (limits : UsageLimits) (call : ToolCall) (outcome : ToolOutcome)
    (c : RunContext δ) :
    (settle limits call outcome c).2 =
      { c with
        messages := (settle limits call outcome c).2.messages
        toolRetries := (settle limits call outcome c).2.toolRetries
        toolCallId := (settle limits call outcome c).2.toolCallId
        toolCalls := c.toolCalls + if outcome.isOk then 1 else 0 } := by
  cases outcome with
  | error retry =>
    rw [settle]
    split <;> rfl
  | ok result =>
    rw [settle]
    cases result.isError <;> simp only [if_true, Bool.false_eq_true, if_false] <;> split <;> rfl

/-- `Agent.serviceCalls` rejects no answer and counts no tokens. -/
theorem serviceCalls_frame (a : Agent δ σ ο) (options : RunOptions) (calls : List ToolCall)
    (p : Progress δ σ) :
    (a.serviceCalls options calls p).2.rejected = p.rejected ∧
      (a.serviceCalls options calls p).2.context.usage = p.context.usage := by
  induction calls generalizing p with
  | nil => exact ⟨rfl, rfl⟩
  | cons call rest ih =>
    have service := a.callService_serviceCall options call p
    have kept : (a.serviceCall options call p).2.rejected = p.rejected ∧
        (a.serviceCall options call p).2.context.usage = p.context.usage := by
      generalize a.serviceCall options call p = r at service
      cases service with
      | unknown | cancelled | cut => exact ⟨rfl, rfl⟩
      | settled =>
        refine ⟨rfl, ?_⟩
        rw [settle_frame]
        rfl
    rw [serviceCalls]
    generalize a.serviceCall options call p = r at kept
    obtain ⟨settled, q⟩ := r
    cases settled with
    | error e => exact kept
    | ok => exact ⟨(ih q).1.trans kept.1, (ih q).2.trans kept.2⟩

/-- An execution that came to an outcome returned if the outcome is a result. -/
theorem returns_of_delivered {x : Execution δ} {outcome : ToolOutcome}
    (delivered : x.outcome.value? = some outcome) : x.returns = outcome.isOk := by
  rw [Execution.returns, delivered]
  cases outcome <;> rfl

/-- A call that reaches its tool is a move, if the counts and the flag are kept accordingly. -/
theorem move_executed {a : Agent δ σ ο} {options : RunOptions} {tool : AgentTool δ σ}
    {call : ToolCall} {p : Progress δ σ} {c : RunContext δ}
    (known : a.tool? call.name = some tool) (running : p.context.cancelled = false)
    (requests : c.requests = p.context.requests)
    (toolCalls : c.toolCalls =
      p.context.toolCalls + if (a.execution options tool call p).returns then 1 else 0)
    (cancelled : c.cancelled = (a.execution options tool call p).outcome.cancels) :
    a.Move options.limits p.standing
      { a.executed options tool call p with context := c : Progress δ σ }.standing := by
  have same : { a.executed options tool call p with context := c : Progress δ σ }.standing =
      p.standing.executed call (a.execution options tool call p).context
        (tool.execute (a.execution options tool call p).context call.arguments p.world) := by
    simp only [Progress.standing, Standing.executed, requests, toolCalls, cancelled]
    rfl
  rw [same]
  exact .execution call _ running known ⟨rfl, running⟩

/-- `Agent.serviceCall` is at most one move. -/
theorem moves_serviceCall (a : Agent δ σ ο) (options : RunOptions) (call : ToolCall)
    (p : Progress δ σ) :
    a.Moves options.limits p.standing (a.serviceCall options call p).2.standing := by
  have service := a.callService_serviceCall options call p
  generalize a.serviceCall options call p = r at service
  cases service with
  | unknown => exact .refl
  | cancelled => exact .refl
  | @cut tool known running undelivered =>
    have idle : (a.execution options tool call p).returns = false := by
      rw [Execution.returns, undelivered]
    exact .single (move_executed known running rfl (by rw [idle]; rfl)
      (RunContext.after_cancelled running _))
  | @settled tool outcome known running delivered =>
    have frame := settle_frame options.limits call outcome (a.executed options tool call p).context
    refine .single (move_executed known running ?_ ?_ ?_)
    · rw [frame]
      rfl
    · rw [frame, returns_of_delivered delivered]
      rfl
    · rw [frame]
      exact RunContext.after_cancelled running _

/-- `Agent.serviceCalls` is a sequence of moves. -/
theorem moves_serviceCalls (a : Agent δ σ ο) (options : RunOptions) (calls : List ToolCall)
    (p : Progress δ σ) :
    a.Moves options.limits p.standing (a.serviceCalls options calls p).2.standing := by
  induction calls generalizing p with
  | nil => exact .refl
  | cons call rest ih =>
    have step := a.moves_serviceCall options call p
    rw [serviceCalls]
    generalize a.serviceCall options call p = r at step
    obtain ⟨settled, q⟩ := r
    cases settled with
    | error e => exact step
    | ok => exact step.trans (ih q)

/-- `Agent.reject` is no move. -/
theorem standing_reject (a : Agent δ σ ο) (e : OutputError) (p : Progress δ σ) :
    (a.reject e p).2.standing = p.standing := by
  rcases a.reject_cases e p with ⟨-, fed⟩ | ⟨-, spent⟩
  · rw [fed]
    rfl
  · rw [spent]

/-- `Agent.proceed` is a sequence of moves. -/
theorem moves_proceed (a : Agent δ σ ο) (options : RunOptions)
    (received : Except Error ChatResponse) (p : Progress δ σ) :
    a.Moves options.limits p.standing (a.proceed options received p).2.standing := by
  have case := a.proceedCase_proceed options received p
  generalize a.proceed options received p = r at case
  -- Counting tokens and appending the message are no moves.
  have pushed : ∀ {usage context} (m : Message),
      account options.limits usage p.context = .ok context →
      { p with context := context.push m : Progress δ σ }.standing = p.standing := by
    intro usage context m counted
    rw [account_eq_ok counted]
    rfl
  cases case with
  | rejected => rw [standing_reject]
  | refused => exact .refl
  | empty => exact .refl
  | overLimit => exact .refl
  | calls _ _ counted =>
    rw [← pushed _ counted]
    exact a.moves_serviceCalls options _ _
  | answered _ _ counted => rw [pushed _ counted]
  | undecoded _ _ counted => rw [standing_reject, pushed _ counted]

/-- `Agent.dispatch` is a move. -/
theorem move_dispatch (a : Agent δ σ ο) {limits : UsageLimits} (systemPrompt : Option String)
    {p : Progress δ σ} (running : p.context.cancelled = false)
    (allowed : limits.checkBeforeRequest p.context.requests = .ok ()) :
    a.Move limits p.standing (a.dispatch systemPrompt p).2.standing := by
  have same : (a.dispatch systemPrompt p).2.standing =
      p.standing.requested (a.request systemPrompt p.context.messages).shaped
        (a.complete (a.request systemPrompt p.context.messages).shaped p.world) := by
    simp only [Progress.standing, Standing.requested, a.dispatch_cancelled systemPrompt running]
    rfl
  rw [same]
  exact .request _ running allowed

/-- **`Agent.round` is a sequence of moves.** -/
theorem moves_round (a : Agent δ σ ο) (options : RunOptions) (systemPrompt : Option String)
    (p : Progress δ σ) :
    a.Moves options.limits p.standing (a.round options systemPrompt p).2.standing := by
  have case := a.roundCase_round options systemPrompt p
  generalize a.round options systemPrompt p = r at case
  cases case with
  | cancelled => exact .refl
  | ceiling => exact .refl
  | undelivered running allowed => exact .single (a.move_dispatch systemPrompt running allowed)
  | delivered running allowed =>
    exact .head (a.move_dispatch systemPrompt running allowed) (a.moves_proceed options _ _)

/-- `Agent.rounds` is a sequence of moves. -/
theorem moves_rounds (a : Agent δ σ ο) (options : RunOptions) (systemPrompt : Option String)
    (n : Nat) (p : Progress δ σ) :
    a.Moves options.limits p.standing (a.rounds options systemPrompt n p).2.standing := by
  induction n generalizing p with
  | zero => exact .refl
  | succ n ih =>
    have step := a.moves_round options systemPrompt p
    rw [rounds]
    generalize a.round options systemPrompt p = r at step
    obtain ⟨ending, q⟩ := r
    cases ending with
    | again => exact step.trans (ih q)
    | answered output => exact step
    | failed e => exact step

/-- **Every `Agent.run` comes to its end by moves**, from a standing in which it has done nothing.
-/
theorem moves_run (a : Agent δ σ ο) (deps : δ) (runId : String) (options : RunOptions)
    (cancelled : Bool) (world : σ) :
    a.Moves options.limits ⟨[], world, 0, 0, cancelled⟩
      (a.run deps runId options cancelled world).2.standing := by
  rw [run]
  split
  · exact .refl
  · exact a.moves_rounds options _ _ (begin deps runId options cancelled world)

end Agent

/-! ## What moves keep -/

/-- What holds of a run that has come to some standing, if it was cancelled beforehand or not. -/
structure Standing.Sound {δ σ : Type} (limits : UsageLimits) (beforehand : Bool)
    (s : Standing δ σ) : Prop where
  /-- The requests that were counted are those that were sent. -/
  requests : s.requests = s.events.countP RunEvent.isRequest
  /-- They are no more than the ceiling. -/
  within : 0 < limits.requestLimit.toNat → s.requests ≤ limits.requestLimit.toNat
  /-- The executions that were counted are those that returned. -/
  toolCalls : s.toolCalls = s.executions.countP Execution.returns
  /-- A tool is shown how many executions were counted before. -/
  shown : ∀ before x after, s.executions = before ++ x :: after →
    x.context.toolCalls = before.countP Execution.returns
  /-- The run is cancelled if it was beforehand or an event cancelled it. -/
  cancelled : s.cancelled = (beforehand || s.events.any RunEvent.cancels)
  /-- What was started was started before the run was cancelled. -/
  calm : ∀ before e after, s.events = before ++ e :: after →
    beforehand = false ∧ before.any RunEvent.cancels = false

namespace Standing.Sound

variable {δ σ ο : Type} {a : Agent δ σ ο} {limits : UsageLimits} {beforehand : Bool}
  {s t : Standing δ σ}

/-- **A move keeps what holds of a run.** -/
theorem move (h : s.Sound limits beforehand) (move : a.Move limits s t) :
    t.Sound limits beforehand := by
  cases move with
  | request request running allowed =>
    have quiet := h.cancelled.symm.trans running
    rw [Bool.or_eq_false_iff] at quiet
    have executions : (s.requested request (a.complete request s.world)).executions =
        s.executions := by
      simp [Standing.executions, Standing.requested, RunEvent.execution?]
    constructor
    case requests => simp [Standing.requested, h.requests, RunEvent.isRequest]
    case within => exact UsageLimits.checkBeforeRequest_eq_ok.mp allowed
    case toolCalls => rw [executions]; exact h.toolCalls
    case shown => rw [executions]; exact h.shown
    case cancelled => simp [Standing.requested, quiet, RunEvent.cancels]
    case calm => exact forall_split_concat h.calm quiet
  | @execution tool call context running known shown =>
    have quiet := h.cancelled.symm.trans running
    rw [Bool.or_eq_false_iff] at quiet
    have executions : (s.executed call context
          (tool.execute context call.arguments s.world)).executions =
        s.executions ++ [⟨call, context, (tool.execute context call.arguments s.world).1⟩] := by
      simp [Standing.executions, Standing.executed, RunEvent.execution?]
    constructor
    case requests => simp [Standing.executed, h.requests, RunEvent.isRequest]
    case within => exact h.within
    case toolCalls =>
      rw [executions, List.countP_append, List.countP_singleton, ← h.toolCalls]
      rfl
    case shown =>
      rw [executions]
      exact forall_split_concat h.shown (shown.1.trans h.toolCalls)
    case cancelled => simp [Standing.executed, quiet, RunEvent.cancels]
    case calm => exact forall_split_concat h.calm quiet

/-- **Moves keep what holds of a run.** -/
theorem moves (h : s.Sound limits beforehand) (moves : a.Moves limits s t) :
    t.Sound limits beforehand := by
  induction moves with
  | refl => exact h
  | tail _ step ih => exact ih.move step

/-- It holds of a run that has done nothing. -/
theorem start (limits : UsageLimits) (beforehand : Bool) (world : σ) :
    (⟨[], world, 0, 0, beforehand⟩ : Standing δ σ).Sound limits beforehand where
  requests := rfl
  within _ := Nat.zero_le _
  toolCalls := rfl
  shown before x after split := by cases before <;> cases split
  cancelled := (Bool.or_false _).symm
  calm before e after split := by cases before <;> cases split

end Standing.Sound

end Colloquy
