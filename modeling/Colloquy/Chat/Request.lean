import Colloquy.Output.Format

/-! # Chat requests

What is sent to a model: the conversation, the tools on offer and the settings.  `shaped` adapts a
request to the format it carries. -/

namespace Colloquy

/-- Whether and which tools the model calls. -/
inductive ToolChoice where
  /-- As the model sees fit. -/
  | auto
  /-- None. -/
  | none
  /-- At least one. -/
  | required
  /-- The named one. -/
  | function (name : String)
deriving DecidableEq, Repr

namespace ToolChoice

/-- The JSON form of a choice of tools. -/
def toJson : ToolChoice → Json
  | auto => .str "auto"
  | none => .str "none"
  | required => .str "required"
  | function name => .obj [("function", .str name)]

/-- Reads the JSON form of a choice of tools. -/
def decoder : Json.Decoder ToolChoice :=
  .oneOf [("auto", .bare auto), ("none", .bare none), ("required", .bare required),
    ("function", .newtype (Json.Decoder.string.map function))]

end ToolChoice

/-- A request for a chat completion. -/
structure ChatRequest where
  /-- The model to use. -/
  model : String
  /-- The conversation. -/
  messages : List Message
  /-- Instructions ahead of the conversation. -/
  systemPrompt : Option String
  /-- Randomness of the sampling. -/
  temperature : Option Single
  /-- Share of the likeliest tokens to sample from. -/
  topP : Option Single
  /-- Most tokens to generate. -/
  maxTokens : Option UInt32
  /-- Number of choices to generate. -/
  n : Option UInt32
  /-- Tools on offer. -/
  tools : List ToolDefinition
  /-- How the model may use the tools. -/
  toolChoice : Option ToolChoice
  /-- Shape of the final answer. -/
  responseFormat : Option ResponseFormat
  /-- Texts at which generation stops. -/
  stop : List String
deriving Repr

namespace ChatRequest

/-- A request with no settings. -/
def new (model : String) (messages : List Message) : ChatRequest where
  model := model
  messages := messages
  systemPrompt := none
  temperature := none
  topP := none
  maxTokens := none
  n := none
  tools := []
  toolChoice := none
  responseFormat := none
  stop := []

/-- The request adapted to its `responseFormat`: mode `tool` offers `outputTool` unless a tool of
its name is there, mode `prompted` appends `promptedSuffix` to the system prompt, and mode `native`
leaves the work to the provider. -/
def shaped (r : ChatRequest) : ChatRequest :=
  match r.responseFormat with
  | none => r
  | some format =>
    match format.mode with
    | .native => r
    | .tool =>
      if r.tools.any fun t => t.name = ResponseFormat.outputToolName then r
      else { r with tools := r.tools ++ [format.outputTool] }
    | .prompted =>
      match r.systemPrompt with
      | some prompt => { r with systemPrompt := some (prompt ++ format.promptedSuffix) }
      | none => { r with systemPrompt := some format.promptedAlone }

/-- The JSON form of a request: what is unset is left out. -/
def toJson (r : ChatRequest) : Json :=
  .obj (Json.optional "max_tokens" (r.maxTokens.map .ofUInt32) ++
    [("messages", .arr (r.messages.map Message.toJson)), ("model", .str r.model)] ++
    Json.optional "n" (r.n.map .ofUInt32) ++
    Json.optional "response_format" (r.responseFormat.map ResponseFormat.toJson) ++
    Json.unlessEmpty "stop" (r.stop.map .str) ++
    Json.optional "system_prompt" (r.systemPrompt.map .str) ++
    Json.optional "temperature" (r.temperature.map .ofSingle) ++
    Json.optional "tool_choice" (r.toolChoice.map ToolChoice.toJson) ++
    Json.unlessEmpty "tools" (r.tools.map ToolDefinition.toJson) ++
    Json.optional "top_p" (r.topP.map .ofSingle))

end ChatRequest

end Colloquy
