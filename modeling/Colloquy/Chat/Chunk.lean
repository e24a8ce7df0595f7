import Colloquy.Chat.Response

/-! # Stream chunks

The pieces in which a response is streamed: fragments of text and of tool calls, choice by choice.
`StreamChunk.ofResponse` puts a whole response into one chunk. -/

namespace Colloquy

/-- A fragment of a tool call. -/
structure ToolCallDelta where
  /-- Position of the call in the message. -/
  index : UInt32
  /-- The call's identifier. -/
  id : Option String
  /-- The tool's name. -/
  name : Option String
  /-- A fragment of the argument text. -/
  arguments : Option String
deriving DecidableEq, Repr

namespace ToolCallDelta

/-- The JSON form of a fragment of a call. -/
def toJson (d : ToolCallDelta) : Json :=
  .obj (Json.optional "arguments" (d.arguments.map .str) ++
    Json.optional "id" (d.id.map .str) ++ [("index", .ofUInt32 d.index)] ++
    Json.optional "name" (d.name.map .str))

/-- The fields of a fragment of a call. -/
def record : Json.Record ToolCallDelta :=
  Json.Record.make ToolCallDelta.mk
    |>.required "index" .word
    |>.optional "id" .string
    |>.optional "name" .string
    |>.optional "arguments" .string

/-- Reads the JSON form of a fragment of a call. -/
def decoder : Json.Decoder ToolCallDelta := record.decoder "struct ToolCallDelta"

end ToolCallDelta

/-- A fragment of a message. -/
structure MessageDelta where
  /-- The sender's role. -/
  role : Option Role
  /-- A fragment of the text. -/
  content : Option String
  /-- A fragment of the refusal. -/
  refusal : Option String
  /-- Fragments of tool calls. -/
  toolCalls : List ToolCallDelta
deriving DecidableEq, Repr

namespace MessageDelta

/-- A fragment of nothing. -/
def empty : MessageDelta := ⟨none, none, none, []⟩

/-- The JSON form of a fragment of a message. -/
def toJson (d : MessageDelta) : Json :=
  .obj (Json.optional "content" (d.content.map .str) ++
    Json.optional "refusal" (d.refusal.map .str) ++ Json.optional "role" (d.role.map Role.toJson) ++
    Json.unlessEmpty "tool_calls" (d.toolCalls.map ToolCallDelta.toJson))

/-- The fields of a fragment of a message. -/
def record : Json.Record MessageDelta :=
  Json.Record.make MessageDelta.mk
    |>.optional "role" Role.decoder
    |>.optional "content" .string
    |>.optional "refusal" .string
    |>.orElse "tool_calls" (.list ToolCallDelta.decoder) []

/-- Reads the JSON form of a fragment of a message. -/
def decoder : Json.Decoder MessageDelta := record.decoder "struct MessageDelta"

end MessageDelta

/-- One choice's share of a chunk. -/
structure StreamChoice where
  /-- Position of the choice. -/
  index : UInt32
  /-- The fragment of its message. -/
  delta : MessageDelta
  /-- Why generation stopped. -/
  finishReason : Option String
deriving DecidableEq, Repr

namespace StreamChoice

/-- The JSON form of a choice's share. -/
def toJson (c : StreamChoice) : Json :=
  .obj ([("delta", c.delta.toJson)] ++ Json.optional "finish_reason" (c.finishReason.map .str) ++
    [("index", .ofUInt32 c.index)])

/-- The fields of a choice's share. -/
def record : Json.Record StreamChoice :=
  Json.Record.make StreamChoice.mk
    |>.required "index" .word
    |>.orElse "delta" MessageDelta.decoder .empty
    |>.optional "finish_reason" .string

/-- Reads the JSON form of a choice's share. -/
def decoder : Json.Decoder StreamChoice := record.decoder "struct StreamChoice"

end StreamChoice

/-- One chunk of a streamed response. -/
structure StreamChunk where
  /-- The provider's identifier. -/
  id : String
  /-- The model that answers. -/
  model : String
  /-- The choices' shares. -/
  choices : List StreamChoice
  /-- Tokens spent, usually in the last chunk only. -/
  usage : Option Usage
deriving DecidableEq, Repr

namespace StreamChunk

/-- The JSON form of a chunk. -/
def toJson (c : StreamChunk) : Json :=
  .obj ([("choices", .arr (c.choices.map StreamChoice.toJson)), ("id", .str c.id),
    ("model", .str c.model)] ++ Json.optional "usage" (c.usage.map Usage.toJson))

/-- The fields of a chunk. -/
def record : Json.Record StreamChunk :=
  Json.Record.make StreamChunk.mk
    |>.orElse "id" .string ""
    |>.orElse "model" .string ""
    |>.orElse "choices" (.list StreamChoice.decoder) []
    |>.optional "usage" Usage.decoder

/-- Reads the JSON form of a chunk. -/
def decoder : Json.Decoder StreamChunk := record.decoder "struct StreamChunk"

/-- A whole tool call as one fragment. -/
def ofCall (index : Nat) (call : ToolCall) : ToolCallDelta :=
  ⟨UInt32.ofNat index, some call.id, some call.name, some call.argumentText⟩

/-- A whole choice as one share; its calls are numbered by position. -/
def ofChoice (c : Choice) : StreamChoice where
  index := c.index
  delta :=
    { role := some c.message.role
      content := if c.message.text = "" then none else some c.message.text
      refusal := c.message.refusal
      toolCalls := c.message.toolCalls.mapIdx ofCall }
  finishReason := c.finishReason

/-- A whole response as one chunk. -/
def ofResponse (r : ChatResponse) : StreamChunk :=
  ⟨r.id, r.model, r.choices.map ofChoice, r.usage⟩

end StreamChunk

end Colloquy
