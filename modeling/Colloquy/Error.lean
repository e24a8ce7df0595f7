import Colloquy.Usage

/-! # Errors

Every failure is a cause with one wording, `message`.  The causes are grouped by what was being
done: reaching a provider, executing a tool, checking a schema, extracting structured output,
assembling a stream, running an agent.  `Error` joins the groups. -/

namespace Colloquy

/-- Failures to get an answer from a provider. -/
inductive ProviderError where
  /-- The provider answered with a failure status. -/
  | api (status : UInt16) (text : String)
  /-- The provider asks to slow down. -/
  | rateLimited (retryAfterSecs : UInt64)
  /-- The provider does not accept the credentials. -/
  | authenticationFailed (text : String)
  /-- The provider has no such model. -/
  | modelNotFound (text : String)
  /-- A stream broke off or could not be understood. -/
  | streamInterrupted (text : String)
  /-- There is no such provider. -/
  | notConfigured (text : String)
  /-- The provider did not answer in time. -/
  | timeout (text : String)
  /-- The provider could not be reached. -/
  | network (text : String)
  /-- The provider does not offer the operation. -/
  | unsupported (text : String)
deriving DecidableEq, Repr

namespace ProviderError

/-- The wording of a provider's failure. -/
def message : ProviderError → String
  | api status text => s!"API request failed: {text} (status: {status.toNat})"
  | rateLimited secs => s!"Rate limited by provider, retry after {secs}s"
  | authenticationFailed text => "Authentication failed: " ++ text
  | modelNotFound text => "Model not found: " ++ text
  | streamInterrupted text => "Stream interrupted: " ++ text
  | notConfigured text => "Provider not configured: " ++ text
  | timeout text => "Request timed out: " ++ text
  | network text => "Network error: " ++ text
  | unsupported text => "Not supported by this provider: " ++ text

/-- Whether the same request may succeed when it is sent again: `rateLimited`, `timeout`, `network`,
and `api` with a status from 500 on. -/
def isTransient : ProviderError → Bool
  | rateLimited _ => true
  | timeout _ => true
  | network _ => true
  | api status _ => 500 ≤ status
  | _ => false

end ProviderError

/-- A tool's wish that the model try again, with feedback for it. -/
structure ModelRetry where
  /-- The feedback. -/
  message : String
deriving DecidableEq, Repr

/-- Failures of a tool. -/
inductive ToolError where
  /-- There is no such tool. -/
  | notFound (name : String)
  /-- The tool failed. -/
  | executionFailed (tool reason : String)
  /-- The tool took too long. -/
  | timeout (tool : String) (secs : Nat)
  /-- The arguments cannot be used. -/
  | invalidArguments (reason : String)
  /-- The model should try again. -/
  | retry (retry : ModelRetry)
deriving DecidableEq, Repr

namespace ToolError

/-- The wording of a tool's failure. -/
def message : ToolError → String
  | notFound name => "Tool not found: " ++ name
  | executionFailed tool reason => s!"Tool execution failed: {tool}: {reason}"
  | timeout tool secs => s!"Tool timed out: {tool} after {secs}s"
  | invalidArguments reason => "Invalid tool arguments: " ++ reason
  | retry r => r.message

end ToolError

/-- Failures of schemas. -/
inductive SchemaError where
  /-- The document is no schema. -/
  | invalidSchema (reason : String)
  /-- A value violates a schema, in these ways. -/
  | validation (errors : List String)
  /-- No schema could be generated. -/
  | generation (reason : String)
deriving DecidableEq, Repr

namespace SchemaError

/-- The wording of a schema's failure. -/
def message : SchemaError → String
  | invalidSchema reason => "invalid schema document: " ++ reason
  | validation errors => "validation failed: " ++ String.intercalate "; " errors
  | generation reason => "failed to generate schema: " ++ reason

end SchemaError

/-- Failures to get structured output from a response.  The run loop recovers from each of them by
giving the model feedback and another attempt, as long as its budget lasts. -/
inductive OutputError where
  /-- The response holds nothing that could be the answer. -/
  | noContent (raw : String)
  /-- The answer does not match the schema. -/
  | schemaValidation (raw reason : String)
  /-- The output tool was not called. -/
  | toolNotCalled (tool : String)
  /-- The output tool was called together with others. -/
  | outputToolMisuse (tool : String) (otherTools : List String)
  /-- The output tool was called several times. -/
  | multipleOutputCalls (tool : String) (count : Nat)
  /-- The answer matches the schema but not the type. -/
  | decode (raw reason : String)
deriving DecidableEq, Repr

namespace OutputError

/-- The wording of an output failure. -/
def message : OutputError → String
  | noContent _ => "no structured content found in response"
  | schemaValidation _ reason => "schema validation failed: " ++ reason
  | toolNotCalled tool => s!"expected the `{tool}` tool to be called"
  | outputToolMisuse tool others =>
    s!"the `{tool}` tool must be called alone, but was called with: " ++
      String.intercalate ", " others
  | multipleOutputCalls tool count =>
    s!"the `{tool}` tool was called {count} times, expected exactly once"
  | decode _ reason => "failed to decode output: " ++ reason

/-- The feedback for an answer `raw` that was found and is wrong for some `reason`; it quotes both.
-/
def mismatchFeedback (raw reason : String) : String :=
  "Your response did not match the required schema: " ++ reason ++
    "\n\nYour response was:\n" ++ raw ++ "\n\nFix the errors and try again."

/-- What the model is told so that it can correct its answer: `mismatchFeedback` for
`schemaValidation` and `decode`, and otherwise what to do about the calls or the missing text. -/
def feedback : OutputError → String
  | noContent _ =>
    "No structured output was found in your response. " ++
      "Respond with a JSON value matching the required schema."
  | schemaValidation raw reason => mismatchFeedback raw reason
  | decode raw reason => mismatchFeedback raw reason
  | toolNotCalled tool => s!"You must call the `{tool}` tool to provide your final answer."
  | outputToolMisuse tool others =>
    s!"The `{tool}` tool must be called on its own. Do not call it together with: " ++
      String.intercalate ", " others ++ ". Try again."
  | multipleOutputCalls tool _ =>
    s!"Call the `{tool}` tool exactly once with your final answer."

end OutputError

/-- Failures to assemble a streamed response. -/
inductive StreamError where
  /-- The argument text of a tool call is no JSON object. -/
  | invalidToolArguments (index : UInt32) (reason : String)
  /-- The stream mentioned no choice. -/
  | noChoices
deriving DecidableEq, Repr

namespace StreamError

/-- The wording of a stream's failure. -/
def message : StreamError → String
  | invalidToolArguments index reason =>
    s!"invalid arguments for streamed tool call {index.toNat}: {reason}"
  | noChoices => "stream produced no choices"

end StreamError

/-- Failures that end a run. -/
inductive RunError where
  /-- The model called a tool that the agent does not have. -/
  | unknownTool (name : String)
  /-- A tool asked for more retries than it has. -/
  | toolRetriesExceeded (tool : String) (maxRetries : UInt32) (text : String)
  /-- The model's answers were rejected once too often. -/
  | outputRetriesExceeded (maxRetries : UInt32) (source : OutputError)
  /-- The run took too many rounds. -/
  | maxIterations (max : UInt32)
  /-- The run crossed a ceiling. -/
  | usageLimitExceeded (exceeded : UsageLimitExceeded)
  /-- The response holds no choice. -/
  | noResponse
  /-- The run was cancelled. -/
  | cancelled
  /-- Two tools have one name. -/
  | duplicateTool (name : String)
  /-- A tool has the name of the hidden output tool. -/
  | reservedToolName (name : String)
deriving DecidableEq, Repr

namespace RunError

/-- The wording of a run's failure. -/
def message : RunError → String
  | unknownTool name => "unknown tool: " ++ name
  | toolRetriesExceeded tool max text =>
    s!"tool \"{tool}\" exceeded max retries ({max.toNat}): {text}"
  | outputRetriesExceeded max source =>
    s!"exceeded maximum output retries ({max.toNat}): {source.message}"
  | maxIterations max => s!"agent exceeded max iterations ({max.toNat})"
  | usageLimitExceeded e => e.message
  | noResponse => "no response from model"
  | cancelled => "run cancelled"
  | duplicateTool name => "duplicate tool name: " ++ name
  | reservedToolName name => "tool name is reserved: " ++ name

end RunError

/-- Any failure. -/
inductive Error where
  /-- A provider's failure. -/
  | provider (e : ProviderError)
  /-- A tool's failure. -/
  | tool (e : ToolError)
  /-- A schema's failure. -/
  | schema (e : SchemaError)
  /-- A failure of structured output. -/
  | output (e : OutputError)
  /-- A stream's failure. -/
  | stream (e : StreamError)
  /-- A run's failure. -/
  | run (e : RunError)
  /-- A setting that cannot work. -/
  | config (text : String)
  /-- A text that could not be decoded. -/
  | serialization (e : Json.TextError)
  /-- Anything else. -/
  | internal (text : String)
deriving DecidableEq, Repr

namespace Error

/-- The wording of a failure. -/
def message : Error → String
  | provider e => "Provider error: " ++ e.message
  | tool e => "Tool error: " ++ e.message
  | schema e => "Schema error: " ++ e.message
  | output e => "Output error: " ++ e.message
  | stream e => "Stream error: " ++ e.message
  | run e => "Run failed: " ++ e.message
  | config text => "Configuration error: " ++ text
  | serialization e => "Serialization error: " ++ e.message
  | internal text => "Internal error: " ++ text

/-- The run's failure within a failure. -/
def runError? : Error → Option RunError
  | run e => some e
  | _ => none

end Error

end Colloquy
