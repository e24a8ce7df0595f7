import Colloquy.Message
import Colloquy.Usage

/-! # Chat responses

What a provider answers: one or more choices, each with a message, and the usage. -/

namespace Colloquy

/-- One generated alternative. -/
structure Choice where
  /-- Position among the choices. -/
  index : UInt32
  /-- The generated message. -/
  message : Message
  /-- Why generation stopped. -/
  finishReason : Option String
  /-- Validated JSON text that was extracted for the request's format. -/
  structuredContent : Option String
deriving Repr

namespace Choice

/-- The JSON form of a choice. -/
def toJson (c : Choice) : Json :=
  .obj (Json.optional "finish_reason" (c.finishReason.map .str) ++
    [("index", .ofUInt32 c.index), ("message", c.message.toJson)] ++
    Json.optional "structured_content" (c.structuredContent.map .str))

/-- The fields of a choice. -/
def record : Json.Record Choice :=
  Json.Record.make Choice.mk
    |>.required "index" .word
    |>.required "message" Message.decoder
    |>.optional "finish_reason" .string
    |>.optional "structured_content" .string

/-- Reads the JSON form of a choice. -/
def decoder : Json.Decoder Choice := record.decoder "struct Choice"

end Choice

/-- A complete response. -/
structure ChatResponse where
  /-- The provider's identifier. -/
  id : String
  /-- The model that answered. -/
  model : String
  /-- The choices. -/
  choices : List Choice
  /-- Tokens spent. -/
  usage : Option Usage
deriving Repr

namespace ChatResponse

/-- A response of one choice. -/
def single (model : String) (message : Message) (usage : Option Usage) : ChatResponse :=
  ⟨"", model, [⟨0, message, none, none⟩], usage⟩

/-- The first choice. -/
def first? (r : ChatResponse) : Option Choice := r.choices.head?

/-- The JSON form of a response. -/
def toJson (r : ChatResponse) : Json :=
  .obj ([("choices", .arr (r.choices.map Choice.toJson)), ("id", .str r.id),
    ("model", .str r.model)] ++ Json.optional "usage" (r.usage.map Usage.toJson))

/-- The fields of a response. -/
def record : Json.Record ChatResponse :=
  Json.Record.make ChatResponse.mk
    |>.orElse "id" .string ""
    |>.required "model" .string
    |>.required "choices" (.list Choice.decoder)
    |>.optional "usage" Usage.decoder

/-- Reads the JSON form of a response. -/
def decoder : Json.Decoder ChatResponse := record.decoder "struct ChatResponse"

end ChatResponse

end Colloquy
