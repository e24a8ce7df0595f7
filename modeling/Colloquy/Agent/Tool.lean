import Colloquy.Agent.Context
import Colloquy.Error
import Colloquy.Schema.Document
import Colloquy.Text.Quoted

/-! # Tools of an agent

A tool is a definition and what a call of it does, in a world `σ`.  A call comes to a result or to a
wish for a retry; every other failure becomes a result that reports it.  `AgentTool.typed` wraps a
handler of typed values, `AgentTool.external` one of bare arguments. -/

namespace Colloquy

/-- What servicing a tool call comes to. -/
abbrev ToolOutcome := Except ModelRetry ToolResult

/-- A tool that an agent can offer to the model. -/
structure AgentTool (δ σ : Type) where
  /-- What the model is told about it. -/
  definition : ToolDefinition
  /-- Its own number of retries. -/
  retries : Option UInt32
  /-- What a call with some arguments does. -/
  execute : RunContext δ → List (String × Json) → σ → Delivery ToolOutcome × σ

/-- The typed side of a tool: how arguments become an input, what the handler makes of it, and how
its output becomes a value. -/
structure TypedHandler (δ σ ι ο : Type) where
  /-- Schema of the arguments. -/
  inputSchema : Schema
  /-- Schema of the encoded output. -/
  outputSchema : Schema
  /-- Decode the arguments, or say why not. -/
  decode : Json → Except String ι
  /-- Encode the output, or say why not. -/
  encode : ο → Except String Json
  /-- Do the work. -/
  handle : RunContext δ → ι → σ → Delivery (Except ToolError ο) × σ

namespace TypedHandler

variable {δ σ ι ο : Type}

/-- The input that the arguments stand for: they pass `inputSchema.check` and are then decoded.  A
failure of either is a `ModelRetry`. -/
def input (h : TypedHandler δ σ ι ο) (arguments : List (String × Json)) : Except ModelRetry ι :=
  match h.inputSchema.check (.obj arguments) with
  | .error e => .error ⟨"Invalid tool input: " ++ e.message⟩
  | .ok () =>
    match h.decode (.obj arguments) with
    | .error reason => .error ⟨"Failed to parse tool input: " ++ reason⟩
    | .ok a => .ok a

/-- The result that an output stands for: it is encoded and then passes `outputSchema.check`.  A
failure of either is a `ToolResult.error`. -/
def result (h : TypedHandler δ σ ι ο) (output : ο) : ToolResult :=
  match h.encode output with
  | .error reason => .error ("Failed to encode tool output: " ++ reason)
  | .ok v =>
    match h.outputSchema.check v with
    | .error e => .error ("Invalid tool output: " ++ e.message)
    | .ok () => .structured v

/-- What the handler's answer comes to: `ToolError.retry` remains a wish for a retry, and any other
failure becomes a `ToolResult.error`. -/
def outcome (h : TypedHandler δ σ ι ο) : Except ToolError ο → ToolOutcome
  | .ok output => .ok (h.result output)
  | .error (.retry r) => .error r
  | .error e => .ok (.error ("Tool execution error: " ++ e.message))

/-- Service a call: `outcome` of what `handle` makes of the `input`.  Without an input `handle` is
not called. -/
def execute (h : TypedHandler δ σ ι ο) (context : RunContext δ) (arguments : List (String × Json))
    (world : σ) : Delivery ToolOutcome × σ :=
  match h.input arguments with
  | .error r => (.ended (.error r), world)
  | .ok a =>
    let (answer, world) := h.handle context a world
    (answer.map h.outcome, world)

end TypedHandler

namespace AgentTool

variable {δ σ ι ο : Type}

/-- The tool's name. -/
def name (t : AgentTool δ σ) : String := t.definition.name

/-- A tool of typed values, whose definition has the documents of both schemas. -/
def typed (name description : String) (h : TypedHandler δ σ ι ο) : AgentTool δ σ where
  definition := ⟨name, description, h.inputSchema.document, some h.outputSchema.document⟩
  retries := none
  execute := h.execute

/-- What the answer of a tool of bare arguments comes to: as `TypedHandler.outcome`, but a failure
is told by its `message` alone. -/
def externalOutcome : Except ToolError ToolResult → ToolOutcome
  | .ok result => .ok result
  | .error (.retry r) => .error r
  | .error e => .ok (.error e.message)

/-- A tool of bare arguments, which are not checked. -/
def external (definition : ToolDefinition)
    (call : List (String × Json) → σ → Delivery (Except ToolError ToolResult) × σ) :
    AgentTool δ σ where
  definition := definition
  retries := none
  execute _ arguments world :=
    let (answer, world) := call arguments world
    (answer.map externalOutcome, world)

/-- The tool's name and retries on one line. -/
def summary (t : AgentTool δ σ) : String :=
  let retries :=
    match t.retries with
    | some n => s!"Some({n.toNat})"
    | none => "None"
  "AgentTool \x7b name: " ++ Text.quoted t.name ++ ", retries: " ++ retries ++ " \x7d"

end AgentTool

end Colloquy
