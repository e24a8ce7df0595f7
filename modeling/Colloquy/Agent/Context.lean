import Colloquy.Chat.Provider

/-! # The state of a run

What a run knows about itself, and what a tool is shown while it is called.  The state also counts
how often each tool asked for a retry since it last succeeded; `RunContext.beginCall` puts that
count and the tool's budget where the tool can see them. -/

namespace Colloquy

/-- What an operation that can be cancelled comes to. -/
inductive Delivery (α : Type) where
  /-- It ends by itself. -/
  | ended (value : α)
  /-- It ends by itself, and the run was cancelled on the way. -/
  | endedCancelled (value : α)
  /-- The run is cancelled before it ends. -/
  | cut
deriving Repr

namespace Delivery

variable {α β : Type}

/-- What is delivered. -/
def value? : Delivery α → Option α
  | ended a => some a
  | endedCancelled a => some a
  | cut => none

/-- Whether the run is cancelled afterwards. -/
def cancels : Delivery α → Bool
  | ended _ => false
  | endedCancelled _ => true
  | cut => true

/-- Apply a function to what is delivered. -/
def map (f : α → β) : Delivery α → Delivery β
  | ended a => ended (f a)
  | endedCancelled a => endedCancelled (f a)
  | cut => cut

end Delivery

/-- The state of a run, with a payload of type `δ` for its tools. -/
structure RunContext (δ : Type) where
  /-- The payload. -/
  deps : δ
  /-- The run's identifier. -/
  runId : String
  /-- The prompt that the run started with. -/
  prompt : Option String
  /-- The conversation so far. -/
  messages : List Message
  /-- Tokens spent so far. -/
  usage : Usage
  /-- Requests sent to the model so far. -/
  requests : Nat
  /-- Tool executions with a result so far. -/
  toolCalls : Nat
  /-- How often the tool being called has asked for a retry in a row. -/
  retry : Nat
  /-- How often the tool being called may ask for one. -/
  maxRetries : UInt32
  /-- The identifier of the call being serviced. -/
  toolCallId : Option String
  /-- Retry counts of the tools; the first entry of a tool counts. -/
  toolRetries : List (String × Nat)
  /-- Whether the run has been cancelled. -/
  cancelled : Bool
deriving Repr

namespace RunContext

variable {δ : Type}

/-- The state of a run in which nothing has happened. -/
def fresh (deps : δ) (runId : String) : RunContext δ where
  deps := deps
  runId := runId
  prompt := none
  messages := []
  usage := .zero
  requests := 0
  toolCalls := 0
  retry := 0
  maxRetries := 0
  toolCallId := none
  toolRetries := []
  cancelled := false

/-- The state of a run that starts from `history`, followed by `prompt` as a message from the user.
-/
def start (deps : δ) (runId : String) (history : List Message) (prompt : Option String)
    (cancelled : Bool) : RunContext δ :=
  { fresh deps runId with
    messages := history ++ (prompt.map Message.user).toList
    prompt := prompt
    cancelled := cancelled }

/-- Whether `maxRetries ≤ retry`, so that another wish for a retry would end the run. -/
def lastAttempt (c : RunContext δ) : Bool := c.maxRetries.toNat ≤ c.retry

/-- How often a tool has asked for a retry since it last succeeded; 0 for one without an entry in
`toolRetries`. -/
def retriesOf (c : RunContext δ) (tool : String) : Nat := (c.toolRetries.lookup tool).getD 0

/-- Append a message to the conversation. -/
def push (c : RunContext δ) (m : Message) : RunContext δ :=
  { c with messages := c.messages ++ [m] }

/-- Count a request. -/
def recordRequest (c : RunContext δ) : RunContext δ := { c with requests := c.requests + 1 }

/-- Count tokens. -/
def addUsage (c : RunContext δ) (u : Usage) : RunContext δ := { c with usage := c.usage + u }

/-- Count a tool execution. -/
def recordExecution (c : RunContext δ) : RunContext δ := { c with toolCalls := c.toolCalls + 1 }

/-- Show a tool the call that it is to service: `retry` becomes `retriesOf tool`, and `toolCallId`
the identifier of the call. -/
def beginCall (c : RunContext δ) (id tool : String) (maxRetries : UInt32) : RunContext δ :=
  { c with retry := c.retriesOf tool, maxRetries := maxRetries, toolCallId := some id }

/-- No call is being serviced any more: `toolCallId = none`. -/
def endCall (c : RunContext δ) : RunContext δ := { c with toolCallId := none }

/-- Count a tool's wish for a retry, which makes `retriesOf tool` one more. -/
def recordRetry (c : RunContext δ) (tool : String) : RunContext δ :=
  { c with toolRetries := (tool, c.retriesOf tool + 1) :: c.toolRetries }

/-- A tool has succeeded, which makes `retriesOf tool` 0. -/
def resetRetries (c : RunContext δ) (tool : String) : RunContext δ :=
  { c with toolRetries := (tool, 0) :: c.toolRetries }

/-- Note what an operation did to the run, which is `cancelled` from then on if `Delivery.cancels`.
-/
def after {α : Type} (c : RunContext δ) (d : Delivery α) : RunContext δ :=
  { c with cancelled := c.cancelled || d.cancels }

end RunContext

end Colloquy
