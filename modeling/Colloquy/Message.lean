import Colloquy.Json.Tagged

/-! # Messages

The values that a conversation is made of: the sender's role, content parts, tool calls and whole
messages.  `Message.text` and `Message.refusal` read a message off its parts.  Every type has its
JSON form, `toJson`, and the decoder that reads it back. -/

namespace Colloquy

/-- Who sent a message.  System instructions are not messages; they travel on the request. -/
inductive Role where
  /-- The person at the keyboard. -/
  | user
  /-- The model. -/
  | assistant
  /-- The answer to a tool call. -/
  | tool
deriving DecidableEq, Repr

/-- How closely the model should look at an image. -/
inductive ImageDetail where
  /-- As the model sees fit. -/
  | auto
  /-- Coarsely. -/
  | low
  /-- Finely. -/
  | high
deriving DecidableEq, Repr

/-- One piece of a message. -/
inductive ContentPart where
  /-- Plain text. -/
  | text (text : String)
  /-- An image given by its bytes. -/
  | image (data : List UInt8) (mediaType : String) (detail : Option ImageDetail)
  /-- An image given by its address. -/
  | imageUrl (url : String) (detail : Option ImageDetail)
  /-- The model's words of refusal. -/
  | refusal (refusal : String)
deriving DecidableEq, Repr

/-- The function half of a tool call. -/
structure ToolFunction where
  /-- Name of the tool. -/
  name : String
  /-- Decoded arguments. -/
  arguments : List (String × Json)
deriving Repr

/-- A call of a tool that an assistant message asks for. -/
structure ToolCall where
  /-- Identifier that the provider gave the call. -/
  id : String
  /-- What to call. -/
  function : ToolFunction
deriving Repr

/-- One message of a conversation. -/
structure Message where
  /-- Who sent it. -/
  role : Role
  /-- Its parts in order. -/
  content : List ContentPart
  /-- Tool calls that it asks for. -/
  toolCalls : List ToolCall
  /-- The call that it answers, for a tool's result. -/
  toolCallId : Option String
deriving Repr

namespace Role

/-- The written form of a role. -/
def name : Role → String
  | user => "user"
  | assistant => "assistant"
  | tool => "tool"

/-- The JSON form of a role. -/
def toJson (r : Role) : Json := .str r.name

/-- Reads the JSON form of a role. -/
def decoder : Json.Decoder Role :=
  .names [("user", user), ("assistant", assistant), ("tool", tool)]

end Role

namespace ImageDetail

/-- The written form of a level of detail. -/
def name : ImageDetail → String
  | auto => "auto"
  | low => "low"
  | high => "high"

/-- The JSON form of a level of detail. -/
def toJson (d : ImageDetail) : Json := .str d.name

/-- Reads the JSON form of a level of detail. -/
def decoder : Json.Decoder ImageDetail :=
  .names [("auto", auto), ("low", low), ("high", high)]

end ImageDetail

namespace ContentPart

/-- The text of a text part. -/
def text? : ContentPart → Option String
  | text t => some t
  | _ => none

/-- The words of a refusal part. -/
def refusal? : ContentPart → Option String
  | refusal r => some r
  | _ => none

/-- The JSON form of a part. -/
def toJson : ContentPart → Json
  | text t => .obj [("type", .str "text"), ("text", .str t)]
  | image data mediaType detail =>
    .obj ([("type", .str "image"), ("data", .arr (data.map fun b => .num (.int (.ofUInt8 b)))),
      ("media_type", .str mediaType)] ++
      Json.optional "detail" (detail.map ImageDetail.toJson))
  | imageUrl url detail =>
    .obj ([("type", .str "image_url"), ("url", .str url)] ++
      Json.optional "detail" (detail.map ImageDetail.toJson))
  | refusal r => .obj [("type", .str "refusal"), ("refusal", .str r)]

/-- The fields of a text part. -/
def textRecord : Json.Record ContentPart :=
  Json.Record.make text |>.required "text" .string

/-- The fields of an image given by its bytes. -/
def imageRecord : Json.Record ContentPart :=
  Json.Record.make image
    |>.required "data" (.list .byte)
    |>.required "media_type" .string
    |>.optional "detail" ImageDetail.decoder

/-- The fields of an image given by its address. -/
def imageUrlRecord : Json.Record ContentPart :=
  Json.Record.make imageUrl
    |>.required "url" .string
    |>.optional "detail" ImageDetail.decoder

/-- The fields of a refusal. -/
def refusalRecord : Json.Record ContentPart :=
  Json.Record.make refusal |>.required "refusal" .string

/-- The kinds of parts, told apart by the member `type`. -/
def kinds : Json.Tagged ContentPart where
  tag := "type"
  title := "internally tagged enum ContentPart"
  alternatives :=
    [("text", Json.Tagged.ofRecord textRecord "struct variant ContentPart::Text"),
      ("image", Json.Tagged.ofRecord imageRecord "struct variant ContentPart::Image"),
      ("image_url", Json.Tagged.ofRecord imageUrlRecord "struct variant ContentPart::ImageUrl"),
      ("refusal", Json.Tagged.ofRecord refusalRecord "struct variant ContentPart::Refusal")]

/-- Reads the JSON form of a part. -/
def decoder : Json.Decoder ContentPart := kinds.decoder

end ContentPart

namespace ToolFunction

/-- The JSON form of the function half of a call. -/
def toJson (f : ToolFunction) : Json :=
  .obj [("name", .str f.name), ("arguments", .obj f.arguments)]

/-- The fields of the function half of a call. -/
def record : Json.Record ToolFunction :=
  Json.Record.make ToolFunction.mk
    |>.required "name" .string
    |>.orElse "arguments" .object []

/-- Reads the JSON form of the function half of a call. -/
def decoder : Json.Decoder ToolFunction := record.decoder "struct ToolFunction"

end ToolFunction

namespace ToolCall

/-- A call of the named tool. -/
def new (id name : String) (arguments : List (String × Json)) : ToolCall :=
  ⟨id, name, arguments⟩

/-- A call with the members of an object as arguments; any other value gives none. -/
def ofJsonArguments (id name : String) (arguments : Json) : ToolCall :=
  match arguments with
  | .obj fields => new id name fields
  | _ => new id name []

/-- Name of the called tool. -/
def name (c : ToolCall) : String := c.function.name

/-- The arguments of the call. -/
def arguments (c : ToolCall) : List (String × Json) := c.function.arguments

/-- The compact JSON text of the call's arguments. -/
def argumentText (c : ToolCall) : String := (Json.obj c.arguments).compact

/-- The JSON form of a call. -/
def toJson (c : ToolCall) : Json :=
  .obj [("id", .str c.id), ("function", c.function.toJson)]

/-- The fields of a call. -/
def record : Json.Record ToolCall :=
  Json.Record.make ToolCall.mk
    |>.required "id" .string
    |>.required "function" ToolFunction.decoder

/-- Reads the JSON form of a call. -/
def decoder : Json.Decoder ToolCall := record.decoder "struct ToolCall"

end ToolCall

namespace Message

/-- A message of one text part, or of none where the text is empty. -/
def withText (role : Role) (text : String) : Message where
  role := role
  content := if text = "" then [] else [.text text]
  toolCalls := []
  toolCallId := none

/-- A message from the user. -/
def user (text : String) : Message := withText .user text

/-- A message of given parts from the user. -/
def userParts (parts : List ContentPart) : Message := ⟨.user, parts, [], none⟩

/-- A message from the assistant. -/
def assistant (text : String) : Message := withText .assistant text

/-- A message from the assistant that asks for tool calls. -/
def assistantToolCalls (text : String) (calls : List ToolCall) : Message :=
  { withText .assistant text with toolCalls := calls }

/-- The answer to a tool call. -/
def toolResult (toolCallId text : String) : Message :=
  { withText .tool text with toolCallId := some toolCallId }

/-- The text parts run together; refusals and images are left out. -/
def text (m : Message) : String :=
  String.join (m.content.filterMap ContentPart.text?)

/-- The refusal parts run together, if they hold any words. -/
def refusal (m : Message) : Option String :=
  let words := String.join (m.content.filterMap ContentPart.refusal?)
  if words = "" then none else some words

/-- Whether the message asks for tool calls. -/
def hasToolCalls (m : Message) : Bool := !m.toolCalls.isEmpty

/-- The JSON form of a message: empty lists and an absent identifier are left out. -/
def toJson (m : Message) : Json :=
  .obj ([("role", m.role.toJson)] ++
    Json.unlessEmpty "content" (m.content.map ContentPart.toJson) ++
    Json.unlessEmpty "tool_calls" (m.toolCalls.map ToolCall.toJson) ++
    Json.optional "tool_call_id" (m.toolCallId.map .str))

/-- The fields of a message. -/
def record : Json.Record Message :=
  Json.Record.make Message.mk
    |>.required "role" Role.decoder
    |>.orElse "content" (.list ContentPart.decoder) []
    |>.orElse "tool_calls" (.list ToolCall.decoder) []
    |>.optional "tool_call_id" .string

/-- Reads the JSON form of a message. -/
def decoder : Json.Decoder Message := record.decoder "struct Message"

end Message

end Colloquy
