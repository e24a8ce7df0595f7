import Colloquy.Binary.Base64
import Colloquy.Chat.Embedding
import Colloquy.Chat.Request
import Colloquy.Text.Utf8

/-! # Requests on the wire

The JSON bodies of requests to a chat-completions interface.  The system prompt is the first entry
of the conversation, images travel as addresses, and the arguments of tool calls are JSON text. -/

namespace Colloquy.Wire

/-- A part of type `image_url`, which gives an image by its address. -/
def imagePart (url : String) (detail : Option ImageDetail) : Json :=
  .obj [("image_url", .obj (Json.optional "detail" (detail.map ImageDetail.toJson) ++
      [("url", .str url)])),
    ("type", .str "image_url")]

/-- A part of type `text`. -/
def textPart (text : String) : Json := .obj [("text", .str text), ("type", .str "text")]

/-- The address `data:{mediaType};base64,…` that holds an image itself. -/
def dataUrl (mediaType : String) (data : List UInt8) : String :=
  "data:" ++ mediaType ++ ";base64," ++ String.ofList (Utf8.decodeLossy (Base64.encode data))

/-- One part of a user's message; a refusal travels as a text. -/
def contentPart : ContentPart → Json
  | .text t => textPart t
  | .image data mediaType detail => imagePart (dataUrl mediaType data) detail
  | .imageUrl url detail => imagePart url detail
  | .refusal r => textPart r

/-- Whether a part is text. -/
def isText : ContentPart → Bool
  | .text _ => true
  | _ => false

/-- The content of a user's message: a string if all of it is text, and an array otherwise. -/
def userContent (parts : List ContentPart) : Json :=
  if parts.all isText then .str (String.join (parts.filterMap ContentPart.text?))
  else .arr (parts.map contentPart)

/-- A tool call, with `ToolCall.argumentText` for its arguments. -/
def toolCallEntry (c : ToolCall) : Json :=
  .obj [("function", .obj [("arguments", .str c.argumentText), ("name", .str c.name)]),
    ("id", .str c.id), ("type", .str "function")]

/-- The text of an assistant's message; a message without text has `null` for it. -/
def assistantText (text : String) : Json := if text = "" then .null else .str text

/-- One entry of the conversation. -/
def messageEntry (m : Message) : Json :=
  match m.role with
  | .user => .obj [("content", userContent m.content), ("role", .str "user")]
  | .tool =>
    .obj [("content", .str m.text), ("role", .str "tool"),
      ("tool_call_id", (m.toolCallId.map Json.str).getD .null)]
  | .assistant =>
    .obj ([("content", assistantText m.text)] ++ Json.optional "refusal" (m.refusal.map .str) ++
      [("role", .str "assistant")] ++ Json.unlessEmpty "tool_calls" (m.toolCalls.map toolCallEntry))

/-- The entry of role `system`. -/
def systemEntry (prompt : String) : Json :=
  .obj [("content", .str prompt), ("role", .str "system")]

/-- The conversation: `systemEntry` if there is a system prompt, and a `messageEntry` for each
message. -/
def conversation (systemPrompt : Option String) (messages : List Message) : List Json :=
  (systemPrompt.map systemEntry).toList ++ messages.map messageEntry

/-- A tool on offer. -/
def toolEntry (t : ToolDefinition) : Json :=
  .obj [("function", .obj [("description", .str t.description), ("name", .str t.name),
      ("parameters", t.inputSchema)]),
    ("type", .str "function")]

/-- How the model may use the tools. -/
def toolChoiceEntry : ToolChoice → Json
  | .auto => .str "auto"
  | .none => .str "none"
  | .required => .str "required"
  | .function name =>
    .obj [("function", .obj [("name", .str name)]), ("type", .str "function")]

/-- Whether a character may stand in the name of a schema. -/
def inSchemaName (c : Char) : Bool := c.isAlphanum || c = '_' || c = '-'

/-- The name of a schema, `output` where it has none; other characters than those `inSchemaName`
give an underscore each. -/
def schemaName (name : String) : String :=
  if name = "" then "output"
  else String.ofList (name.toList.map fun c => if inSchemaName c then c else '_')

/-- The member `response_format`, of type `json_schema`: the shape of the answer, for the provider
to enforce. -/
def formatEntry (f : ResponseFormat) : Json :=
  .obj [("json_schema", .obj (
      (if f.description = "" then [] else [("description", .str f.description)]) ++
      [("name", .str (schemaName f.name)), ("schema", f.schema.document)])),
    ("type", .str "json_schema")]

/-- The format of a request, where the provider is to enforce it, that is, in mode `native`. -/
def enforced? (format : Option ResponseFormat) : Option ResponseFormat :=
  format.filter (·.mode = .native)

/-- The body of a request to `chat/completions`; a streamed one asks for the usage as well, by
`stream_options`. -/
def chatBody (r : ChatRequest) (stream : Bool) : Json :=
  .obj (Json.optional "max_tokens" (r.maxTokens.map .ofUInt32) ++
    [("messages", .arr (conversation r.systemPrompt r.messages)), ("model", .str r.model)] ++
    Json.optional "n" (r.n.map .ofUInt32) ++
    Json.optional "response_format" ((enforced? r.responseFormat).map formatEntry) ++
    Json.unlessEmpty "stop" (r.stop.map .str) ++
    [("stream", .bool stream)] ++
    (if stream then [("stream_options", .obj [("include_usage", .bool true)])] else []) ++
    Json.optional "temperature" (r.temperature.map .ofSingle) ++
    Json.optional "tool_choice" (r.toolChoice.map toolChoiceEntry) ++
    Json.unlessEmpty "tools" (r.tools.map toolEntry) ++
    Json.optional "top_p" (r.topP.map .ofSingle))

/-- The body of a request to `embeddings`. -/
def embeddingBody (r : EmbeddingRequest) : Json :=
  .obj (Json.optional "dimensions" (r.dimensions.map .ofUInt32) ++
    Json.optional "encoding_format" (r.encodingFormat.map EncodingFormat.toJson) ++
    [("input", .arr (r.input.map .str)), ("model", .str r.model)])

end Colloquy.Wire
