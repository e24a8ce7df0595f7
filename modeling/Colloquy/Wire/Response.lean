import Colloquy.Chat.Response
import Colloquy.Error
import Colloquy.Text.Blank

/-! # Responses on the wire

The JSON of complete responses of a chat-completions interface, and the responses that they stand
for.  The arguments of a tool call come as JSON text, which has to hold an object. -/

namespace Colloquy.Wire

/-- The function half of a call on the wire. -/
structure FunctionEntry where
  /-- The tool's name. -/
  name : String
  /-- The text of the arguments. -/
  arguments : String
deriving DecidableEq, Repr

/-- A tool call on the wire. -/
structure CallEntry where
  /-- The call's identifier. -/
  id : String
  /-- The kind of the call. -/
  type : String
  /-- What to call. -/
  function : FunctionEntry
deriving DecidableEq, Repr

/-- A message on the wire. -/
structure ReplyMessage where
  /-- The text. -/
  content : Option String
  /-- The refusal. -/
  refusal : Option String
  /-- The tool calls. -/
  toolCalls : Option (List CallEntry)
deriving DecidableEq, Repr

/-- A choice on the wire. -/
structure ReplyChoice where
  /-- Position among the choices. -/
  index : UInt32
  /-- The message. -/
  message : ReplyMessage
  /-- Why generation stopped. -/
  finishReason : Option String
deriving DecidableEq, Repr

/-- A response on the wire. -/
structure Reply where
  /-- The provider's identifier. -/
  id : String
  /-- The model that answered. -/
  model : String
  /-- The choices. -/
  choices : List ReplyChoice
  /-- Tokens spent. -/
  usage : Option Usage
deriving DecidableEq, Repr

/-- Reads the function half of a call. -/
def FunctionEntry.decoder : Json.Decoder FunctionEntry :=
  (Json.Record.make FunctionEntry.mk
    |>.required "name" .string
    |>.orElse "arguments" .string "").decoder "struct ApiFunction"

/-- Reads a tool call. -/
def CallEntry.decoder : Json.Decoder CallEntry :=
  (Json.Record.make CallEntry.mk
    |>.required "id" .string
    |>.required "type" .string
    |>.required "function" FunctionEntry.decoder).decoder "struct ApiToolCall"

/-- Reads a message. -/
def ReplyMessage.decoder : Json.Decoder ReplyMessage :=
  (Json.Record.make ReplyMessage.mk
    |>.optional "content" .string
    |>.optional "refusal" .string
    |>.optional "tool_calls" (.list CallEntry.decoder)).decoder "struct ApiResponseMessage"

/-- Reads a choice. -/
def ReplyChoice.decoder : Json.Decoder ReplyChoice :=
  (Json.Record.make ReplyChoice.mk
    |>.orElse "index" .word 0
    |>.required "message" ReplyMessage.decoder
    |>.optional "finish_reason" .string).decoder "struct ApiChoice"

/-- Reads the usage. -/
def usageDecoder : Json.Decoder Usage := Usage.record.decoder "struct ApiUsage"

/-- Reads a response. -/
def Reply.decoder : Json.Decoder Reply :=
  (Json.Record.make Reply.mk
    |>.orElse "id" .string ""
    |>.orElse "model" .string ""
    |>.required "choices" (.list ReplyChoice.decoder)
    |>.optional "usage" usageDecoder).decoder "struct ApiResponse"

/-- The failure to understand a reply that the server took for a success, `api 200`. -/
def misunderstood (text : String) : ProviderError := .api 200 text

/-- The arguments that a text stands for, which has to be a JSON object; blank text stands for none.
-/
def argumentsOf (text : String) : Except String (List (String × Json)) :=
  if text.toList.all Text.isBlank then .ok []
  else
    match Json.ofText text with
    | .ok (.obj fields) => .ok fields
    | .ok _ => .error "arguments are not a JSON object"
    | .error e => .error e.message

/-- The call that an entry stands for, by `argumentsOf`; a failure names the call. -/
def CallEntry.toCall (c : CallEntry) : Except ProviderError ToolCall :=
  match argumentsOf c.function.arguments with
  | .ok arguments => .ok (.new c.id c.function.name arguments)
  | .error reason =>
    .error (misunderstood s!"invalid arguments for tool call {c.id}: {reason}")

/-- The message that stands on the wire, `CallEntry.toCall` each of its calls; a refusal is kept
even if it is empty. -/
def ReplyMessage.toMessage (m : ReplyMessage) : Except ProviderError Message := do
  let message := Message.assistant (m.content.getD "")
  .ok
    { message with
      content := message.content ++ (m.refusal.map ContentPart.refusal).toList
      toolCalls := ← (m.toolCalls.getD []).mapM CallEntry.toCall }

/-- The choice that stands on the wire. -/
def ReplyChoice.toChoice (c : ReplyChoice) : Except ProviderError Choice := do
  .ok ⟨c.index, ← c.message.toMessage, c.finishReason, none⟩

/-- The response that stands on the wire. -/
def Reply.toResponse (r : Reply) : Except ProviderError ChatResponse := do
  .ok ⟨r.id, r.model, ← r.choices.mapM ReplyChoice.toChoice, r.usage⟩

end Colloquy.Wire
