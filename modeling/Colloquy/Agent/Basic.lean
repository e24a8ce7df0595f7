import Colloquy.Agent.Config
import Colloquy.Agent.Tool
import Colloquy.Chat.Client

/-! # Agents

An agent puts a model, its instructions, tools and settings together, and says what counts as an
answer.  `Agent.validate` refuses agents that cannot work: an agent that passes has usable settings,
tools of distinct names, and no tool in the place of the hidden output tool.  Tools are looked up
in an index of their names. -/

namespace Colloquy

/-- A piece of the system prompt. -/
inductive SystemPrompt (δ : Type) where
  /-- Always the same. -/
  | fixed (text : String)
  /-- Made from the payload of a run. -/
  | fromDeps (text : δ → String)

namespace SystemPrompt

variable {δ : Type}

/-- The words of a piece: those of `fixed`, or what `fromDeps` makes of the payload `deps`. -/
def text (deps : δ) : SystemPrompt δ → String
  | fixed text => text
  | fromDeps text => text deps

/-- The pieces that are not empty, in order and with a blank line between them; `none` if there are
none. -/
def join (deps : δ) (prompts : List (SystemPrompt δ)) : Option String :=
  match (prompts.map (text deps)).filter (· ≠ "") with
  | [] => none
  | parts => some (String.intercalate "\n\n" parts)

end SystemPrompt

/-- What counts as the answer of a run. -/
inductive Answer (ο : Type) where
  /-- The text of the last message. -/
  | text (make : String → ο)
  /-- Structured output in a format, decoded from its JSON text. -/
  | structured (format : ResponseFormat) (decode : String → Except Json.TextError ο)

namespace Answer

variable {ο : Type}

/-- The `ChatRequest.responseFormat` of the requests. -/
def format? : Answer ο → Option ResponseFormat
  | text _ => none
  | structured format _ => some format

/-- Decode the answer: `Message.text` for an answer in plain text, and otherwise the extracted JSON
text, without which it is `OutputError.noContent`. -/
def decode : Answer ο → Option String → Message → Except OutputError ο
  | text make, _, m => .ok (make m.text)
  | structured _ _, none, m => .error (.noContent m.text)
  | structured _ decode, some raw, _ => (decode raw).mapError fun e => .decode raw e.message

end Answer

/-- An agent: its tools are shown a payload `δ` and act on a world `σ`, and its runs answer with
`ο`. -/
structure Agent (δ σ ο : Type) where
  /-- How the model is reached. -/
  complete : ChatRequest → σ → Delivery (Except ProviderError ChatResponse) × σ
  /-- The model. -/
  model : String
  /-- The instructions. -/
  systemPrompts : List (SystemPrompt δ)
  /-- The tools, in the order in which they are offered. -/
  tools : List (AgentTool δ σ)
  /-- The settings. -/
  config : AgentConfig
  /-- How the model may use the tools. -/
  toolChoice : Option ToolChoice
  /-- What counts as an answer. -/
  answer : Answer ο

/-- A provider's way to complete requests, which nothing cancels. -/
def Provider.uninterrupted {σ : Type} (p : Provider σ) (request : ChatRequest) (world : σ) :
    Delivery (Except ProviderError ChatResponse) × σ :=
  let (answer, world) := p.complete request world
  (.ended answer, world)

namespace Agent

variable {δ σ ο : Type}

/-- What the model is told about the agent's tools. -/
def definitions (a : Agent δ σ ο) : List ToolDefinition := a.tools.map AgentTool.definition

/-- The places of names from `place` on, put before those in `met`.  The first name that is
`outputToolName` or stands in `met` by then is refused, as `reservedToolName` or as `duplicateTool`.
-/
def indexNames (met : List (String × Nat)) (place : Nat) :
    List String → Except RunError (List (String × Nat))
  | [] => .ok met
  | name :: rest =>
    if name = ResponseFormat.outputToolName then .error (.reservedToolName name)
    else if (met.lookup name).isSome then .error (.duplicateTool name)
    else indexNames ((name, place) :: met) (place + 1) rest

/-- The places of the agent's tools by name: `indexNames [] 0` of their names. -/
def toolIndex (a : Agent δ σ ο) : Except RunError (List (String × Nat)) :=
  indexNames [] 0 (a.tools.map AgentTool.name)

/-- The tool at the place that `toolIndex` has for a name. -/
def tool? (a : Agent δ σ ο) (name : String) : Option (AgentTool δ σ) := do
  let place ← (← a.toolIndex.toOption).lookup name
  a.tools[place]?

/-- Refuse an agent that cannot work: first for `AgentConfig.validate`, then for `toolIndex`. -/
def validate (a : Agent δ σ ο) : Except Error Unit := do
  a.config.validate
  (a.toolIndex.map fun _ => ()).mapError .run

/-- How often a tool may ask for a retry in a row: the run's `override`, else the tool's `retries`,
else the agent's `config.retries`. -/
def retryBudget (a : Agent δ σ ο) (override : Option UInt32) (t : AgentTool δ σ) : UInt32 :=
  (override.or t.retries).getD a.config.retries

/-- The request for the next turn of a conversation, before it is `ChatRequest.shaped`. -/
def request (a : Agent δ σ ο) (systemPrompt : Option String) (messages : List Message) :
    ChatRequest :=
  { ChatRequest.new a.model messages with
    systemPrompt := systemPrompt
    tools := a.definitions
    toolChoice := a.toolChoice
    responseFormat := a.answer.format?
    temperature := a.config.temperature
    maxTokens := a.config.maxTokens }

end Agent

end Colloquy
