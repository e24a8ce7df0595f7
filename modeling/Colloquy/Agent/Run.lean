import Colloquy.Agent.Basic

/-! # Runs

A run sends the conversation to the model, services the tool calls that come back, and goes on until
the model answers.  Each round dispatches one request; rejected answers and wishes for a retry are
fed back to the model while their budgets last, and everything else ends the run.  A run keeps a
list of what it did, `RunEvent`, and a cancelled run starts nothing more. -/

namespace Colloquy

/-- How a run is started. -/
structure RunOptions where
  /-- A message from the user that follows the history. -/
  prompt : Option String
  /-- History to start from, such as the messages of an earlier run. -/
  messages : List Message
  /-- Retries of every tool, whatever its own number. -/
  retries : Option UInt32
  /-- Ceilings. -/
  limits : UsageLimits
deriving Repr

/-- The outcome of a successful run. -/
structure RunResult (ο : Type) where
  /-- The answer. -/
  output : ο
  /-- The whole conversation, from which another run may start. -/
  messages : List Message
  /-- Tokens spent. -/
  usage : Usage
  /-- The run's identifier. -/
  runId : String
  /-- Requests sent to the model. -/
  requests : Nat
  /-- Tool executions with a result. -/
  toolCalls : Nat
deriving Repr

/-- Something that a run did. -/
inductive RunEvent (δ : Type) where
  /-- It sent a request, as the provider saw it. -/
  | requested (request : ChatRequest) (answer : Delivery (Except ProviderError ChatResponse))
  /-- It executed a tool. -/
  | executed (call : ToolCall) (context : RunContext δ) (outcome : Delivery ToolOutcome)

/-- How far a run has come. -/
structure Progress (δ σ : Type) where
  /-- The state that tools are shown. -/
  context : RunContext δ
  /-- Answers rejected so far. -/
  rejected : Nat
  /-- The world. -/
  world : σ
  /-- What the run did, in order. -/
  events : List (RunEvent δ)

/-- How a round ends. -/
inductive RoundEnd (ο : Type) where
  /-- Another round has to follow. -/
  | again
  /-- The run is over and has an answer. -/
  | answered (output : ο)
  /-- The run is over and has failed. -/
  | failed (e : Error)

namespace RunOptions

/-- A run that starts from a prompt, without further options. -/
def ofPrompt (prompt : String) : RunOptions := ⟨some prompt, [], none, .none⟩

end RunOptions

namespace RunResult

/-- The JSON form of an outcome. -/
def toJson {ο : Type} (output : ο → Json) (r : RunResult ο) : Json :=
  .obj [("output", output r.output), ("messages", .arr (r.messages.map Message.toJson)),
    ("usage", r.usage.toJson), ("run_id", .str r.runId), ("requests", .ofInt r.requests),
    ("tool_calls", .ofInt r.toolCalls)]

end RunResult

namespace Progress

variable {δ σ : Type}

/-- Change the state that tools are shown: `{ p with context := f p.context }`. -/
def onContext (f : RunContext δ → RunContext δ) (p : Progress δ σ) : Progress δ σ :=
  { p with context := f p.context }

end Progress

namespace Agent

variable {δ σ ο : Type}

/-- Send `Agent.request` for the conversation so far, `ChatRequest.shaped` for its format.  The
request counts even if no answer is delivered. -/
def dispatch (a : Agent δ σ ο) (systemPrompt : Option String) (p : Progress δ σ) :
    Delivery (Except ProviderError ChatResponse) × Progress δ σ :=
  let request := (a.request systemPrompt p.context.messages).shaped
  let (answer, world) := a.complete request p.world
  (answer,
    { p with
      context := p.context.recordRequest.after answer
      world := world
      events := p.events ++ [.requested request answer] })

/-- Feed a rejected answer back to the model by `OutputError.feedback`; once `outputBudget` answers
were rejected, the run fails with `outputRetriesExceeded`. -/
def reject (a : Agent δ σ ο) (e : OutputError) (p : Progress δ σ) : RoundEnd ο × Progress δ σ :=
  let budget := a.config.outputBudget
  if budget.toNat ≤ p.rejected then (.failed (.run (.outputRetriesExceeded budget e)), p)
  else
    (.again,
      { p with
        context := p.context.push (.user e.feedback)
        rejected := p.rejected + 1 })

/-- Fold what a tool call came to into the conversation.  A wish for a retry is counted, and on
`lastAttempt` ends the run; a result is counted as an execution and resets the wishes unless it
`isError`, and a count that `checkToolCalls` refuses ends the run. -/
def settle (limits : UsageLimits) (call : ToolCall) (outcome : ToolOutcome) (c : RunContext δ) :
    Except RunError Unit × RunContext δ :=
  match outcome with
  | .error retry =>
    if c.lastAttempt then (.error (.toolRetriesExceeded call.name c.maxRetries retry.message), c)
    else
      (.ok (), ((c.recordRetry call.name).push
        ((ToolResult.error retry.message).toMessage call.id)).endCall)
  | .ok result =>
    let c := (if result.isError then c else c.resetRetries call.name).recordExecution
    match limits.checkToolCalls c.toolCalls with
    | .error e => (.error (.usageLimitExceeded e), c)
    | .ok () => (.ok (), (c.push (result.toMessage call.id)).endCall)

/-- Service one tool call: `beginCall`, `AgentTool.execute`, `settle`.  Nothing is executed once the
run is cancelled. -/
def serviceCall (a : Agent δ σ ο) (options : RunOptions) (call : ToolCall) (p : Progress δ σ) :
    Except RunError Unit × Progress δ σ :=
  match a.tool? call.name with
  | none => (.error (.unknownTool call.name), p)
  | some tool =>
    let context := p.context.beginCall call.id call.name (a.retryBudget options.retries tool)
    if context.cancelled then (.error .cancelled, { p with context := context })
    else
      let (outcome, world) := tool.execute context call.arguments p.world
      let p : Progress δ σ :=
        { p with
          context := context.after outcome
          world := world
          events := p.events ++ [.executed call context outcome] }
      match outcome.value? with
      | none => (.error .cancelled, p)
      | some outcome =>
        let (settled, context) := settle options.limits call outcome p.context
        (settled, { p with context := context })

/-- Service tool calls in order, up to the first failure of `serviceCall`. -/
def serviceCalls (a : Agent δ σ ο) (options : RunOptions) :
    List ToolCall → Progress δ σ → RoundEnd ο × Progress δ σ
  | [], p => (.again, p)
  | call :: rest, p =>
    match a.serviceCall options call p with
    | (.error e, p) => (.failed (.run e), p)
    | (.ok (), p) => a.serviceCalls options rest p

/-- Take up a message of the model, which joins the conversation: its tool calls are serviced;
without any it is the answer, if `Answer.decode` finds one in it. -/
def takeUp (a : Agent δ σ ο) (options : RunOptions) (choice : Choice) (p : Progress δ σ) :
    RoundEnd ο × Progress δ σ :=
  let p := p.onContext (·.push choice.message)
  if choice.message.hasToolCalls then a.serviceCalls options choice.message.toolCalls p
  else
    match a.answer.decode choice.structuredContent choice.message with
    | .ok output => (.answered output, p)
    | .error e => a.reject e p

/-- Add the tokens of a response to `usage`, unless `checkCompletionTokens` refuses them. -/
def account (limits : UsageLimits) (usage : Option Usage) (c : RunContext δ) :
    Except RunError (RunContext δ) :=
  match usage with
  | none => .ok c
  | some u =>
    match limits.checkCompletionTokens u.completionTokens.toNat with
    | .error e => .error (.usageLimitExceeded e)
    | .ok () => .ok (c.addUsage u)

/-- Go on from what `Client.receive` made of the provider's answer: an `Error.output` goes to
`reject`, and the first choice of a response to `account` and `takeUp`. -/
def proceed (a : Agent δ σ ο) (options : RunOptions) (received : Except Error ChatResponse)
    (p : Progress δ σ) : RoundEnd ο × Progress δ σ :=
  match received with
  | .error (.output e) => a.reject e p
  | .error e => (.failed e, p)
  | .ok response =>
    match response.first? with
    | none => (.failed (.run .noResponse), p)
    | some choice =>
      match account options.limits response.usage p.context with
      | .error e => (.failed (.run e), p)
      | .ok context => a.takeUp options choice { p with context := context }

/-- One round: `checkBeforeRequest`, `dispatch`, `proceed`.  A cancelled run sends nothing, and
neither does one at its ceiling of requests. -/
def round (a : Agent δ σ ο) (options : RunOptions) (systemPrompt : Option String)
    (p : Progress δ σ) : RoundEnd ο × Progress δ σ :=
  if p.context.cancelled then (.failed (.run .cancelled), p)
  else
    match options.limits.checkBeforeRequest p.context.requests with
    | .error e => (.failed (.run (.usageLimitExceeded e)), p)
    | .ok () =>
      let (answer, p) := a.dispatch systemPrompt p
      match answer.value? with
      | none => (.failed (.run .cancelled), p)
      | some answer => a.proceed options (Client.receive a.answer.format? answer) p

/-- At most the given number of rounds, up to the first that is not `RoundEnd.again`; after the last
one the run fails with `maxIterations`. -/
def rounds (a : Agent δ σ ο) (options : RunOptions) (systemPrompt : Option String) :
    Nat → Progress δ σ → Except Error ο × Progress δ σ
  | 0, p => (.error (.run (.maxIterations a.config.maxIterations)), p)
  | n + 1, p =>
    match a.round options systemPrompt p with
    | (.again, p) => a.rounds options systemPrompt n p
    | (.answered output, p) => (.ok output, p)
    | (.failed e, p) => (.error e, p)

/-- The outcome that belongs to an answer, with the counts of the state `c`. -/
def finish (output : ο) (c : RunContext δ) : RunResult ο :=
  ⟨output, c.messages, c.usage, c.runId, c.requests, c.toolCalls⟩

/-- Where a run begins: at `RunContext.start`, with nothing rejected and nothing done. -/
def begin (deps : δ) (runId : String) (options : RunOptions) (cancelled : Bool) (world : σ) :
    Progress δ σ :=
  ⟨.start deps runId options.messages options.prompt cancelled, 0, world, []⟩

/-- A whole run, `config.maxIterations` rounds from `begin` on, with the place where it ended; it
needs a prompt or some history to start from. -/
def run (a : Agent δ σ ο) (deps : δ) (runId : String) (options : RunOptions) (cancelled : Bool)
    (world : σ) : Except Error (RunResult ο) × Progress δ σ :=
  let p := begin deps runId options cancelled world
  if options.prompt.isNone ∧ options.messages.isEmpty then
    (.error (.config "a run needs a prompt or seed messages"), p)
  else
    let (outcome, p) :=
      a.rounds options (SystemPrompt.join deps a.systemPrompts) a.config.maxIterations.toNat p
    (outcome.map fun output => finish output p.context, p)

end Agent

end Colloquy
