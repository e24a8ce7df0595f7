import Colloquy.Json.Decoder

/-! # Token usage and its ceilings

Token counts of a response, their sums, and the ceilings that a run may be given.  A ceiling of zero
is none. -/

namespace Colloquy

/-- Tokens spent on a request and its response. -/
structure Usage where
  /-- Tokens of the request. -/
  promptTokens : UInt32
  /-- Tokens of the response. -/
  completionTokens : UInt32
  /-- Tokens of both, as the provider counts them. -/
  totalTokens : UInt32
deriving DecidableEq, Repr, Inhabited

namespace Usage

/-- Nothing spent. -/
def zero : Usage := ⟨0, 0, 0⟩

/-- The usage `new p c = ⟨p, c, p + c⟩`, its total being the sum of the counts. -/
def new (promptTokens completionTokens : UInt32) : Usage :=
  ⟨promptTokens, completionTokens, promptTokens + completionTokens⟩

/-- The sum `a + b` of two usages, count by count; the totals are added up and not computed anew. -/
def add (a b : Usage) : Usage :=
  ⟨a.promptTokens + b.promptTokens, a.completionTokens + b.completionTokens,
    a.totalTokens + b.totalTokens⟩

instance : Add Usage := ⟨add⟩

/-- The JSON form of a usage. -/
def toJson (u : Usage) : Json :=
  .obj [("prompt_tokens", .ofUInt32 u.promptTokens),
    ("completion_tokens", .ofUInt32 u.completionTokens), ("total_tokens", .ofUInt32 u.totalTokens)]

/-- The fields of a usage. -/
def record : Json.Record Usage :=
  Json.Record.make Usage.mk
    |>.required "prompt_tokens" .word
    |>.required "completion_tokens" .word
    |>.required "total_tokens" .word

/-- Reads the JSON form of a usage. -/
def decoder : Json.Decoder Usage := record.decoder "struct Usage"

end Usage

/-- What a ceiling counts. -/
inductive UsageLimitKind where
  /-- Requests to the model. -/
  | requests
  /-- Tokens of a single response. -/
  | completionTokens
  /-- Tool executions. -/
  | toolCalls
deriving DecidableEq, Repr

namespace UsageLimitKind

/-- The name of the ceiling in messages. -/
def limitName : UsageLimitKind → String
  | requests => "request_limit"
  | completionTokens => "completion_tokens_limit"
  | toolCalls => "tool_calls_limit"

/-- The written form of what is counted. -/
def name : UsageLimitKind → String
  | requests => "requests"
  | completionTokens => "completion_tokens"
  | toolCalls => "tool_calls"

end UsageLimitKind

/-- A ceiling that was crossed. -/
structure UsageLimitExceeded where
  /-- Which ceiling. -/
  limit : UsageLimitKind
  /-- The count that crossed it. -/
  observed : Nat
  /-- The ceiling. -/
  max : Nat
deriving DecidableEq, Repr

namespace UsageLimitExceeded

/-- The wording of a crossed ceiling. -/
def message (e : UsageLimitExceeded) : String :=
  s!"usage limit exceeded: {e.limit.limitName} (observed {e.observed}, max {e.max})"

end UsageLimitExceeded

/-- The ceilings of a run; zero is unlimited. -/
structure UsageLimits where
  /-- Most requests to the model. -/
  requestLimit : UInt32
  /-- Most tokens of any single response. -/
  completionTokensLimit : UInt32
  /-- Most tool executions. -/
  toolCallsLimit : UInt32
deriving DecidableEq, Repr, Inhabited

namespace UsageLimits

/-- No ceilings. -/
def none : UsageLimits := ⟨0, 0, 0⟩

/-- Refuse the count `observed` if it is `crossed`, as `UsageLimitExceeded`; with `limit = 0`
nothing is refused. -/
def refuse (kind : UsageLimitKind) (limit : UInt32) (observed : Nat) (crossed : Bool) :
    Except UsageLimitExceeded Unit :=
  if 0 < limit.toNat ∧ crossed then .error ⟨kind, observed, limit.toNat⟩ else .ok ()

/-- Before a request, `requests < requestLimit` has to hold of the requests already sent. -/
def checkBeforeRequest (l : UsageLimits) (requests : Nat) : Except UsageLimitExceeded Unit :=
  refuse .requests l.requestLimit requests (l.requestLimit.toNat ≤ requests)

/-- The tokens of one response, not of the run: `tokens ≤ completionTokensLimit` has to hold. -/
def checkCompletionTokens (l : UsageLimits) (tokens : Nat) : Except UsageLimitExceeded Unit :=
  refuse .completionTokens l.completionTokensLimit tokens (l.completionTokensLimit.toNat < tokens)

/-- The tool executions so far: `calls ≤ toolCallsLimit` has to hold. -/
def checkToolCalls (l : UsageLimits) (calls : Nat) : Except UsageLimitExceeded Unit :=
  refuse .toolCalls l.toolCallsLimit calls (l.toolCallsLimit.toNat < calls)

/-- The JSON form of ceilings. -/
def toJson (l : UsageLimits) : Json :=
  .obj [("request_limit", .ofUInt32 l.requestLimit),
    ("completion_tokens_limit", .ofUInt32 l.completionTokensLimit),
    ("tool_calls_limit", .ofUInt32 l.toolCallsLimit)]

/-- The fields of ceilings. -/
def record : Json.Record UsageLimits :=
  Json.Record.make UsageLimits.mk
    |>.orElse "request_limit" .word 0
    |>.orElse "completion_tokens_limit" .word 0
    |>.orElse "tool_calls_limit" .word 0

/-- Reads the JSON form of ceilings. -/
def decoder : Json.Decoder UsageLimits := record.decoder "struct UsageLimits"

end UsageLimits

end Colloquy
