import Colloquy.Chat.Provider
import Colloquy.Wire.Response

/-! # Stream chunks on the wire

The JSON of the pieces of a streamed response, and the chunks that they stand for.  A piece can also
report that the provider failed in the middle of the stream. -/

namespace Colloquy.Wire

/-- A fragment of the function half of a call. -/
structure FunctionFragment where
  /-- The tool's name. -/
  name : Option String
  /-- A fragment of the argument text. -/
  arguments : Option String
deriving DecidableEq, Repr

/-- A fragment of a tool call. -/
structure CallFragment where
  /-- Position of the call. -/
  index : UInt32
  /-- The call's identifier. -/
  id : Option String
  /-- The function half. -/
  function : Option FunctionFragment
deriving DecidableEq, Repr

/-- A fragment of a message. -/
structure MessageFragment where
  /-- The sender's role. -/
  role : Option String
  /-- A fragment of the text. -/
  content : Option String
  /-- A fragment of the refusal. -/
  refusal : Option String
  /-- Fragments of tool calls. -/
  toolCalls : Option (List CallFragment)
  /-- A fragment of the only call, in the form from before there were tools. -/
  functionCall : Option FunctionFragment
deriving DecidableEq, Repr

/-- One choice's share of a piece. -/
structure ChoiceFragment where
  /-- Position of the choice. -/
  index : UInt32
  /-- The fragment of its message. -/
  delta : MessageFragment
  /-- Why generation stopped. -/
  finishReason : Option String
deriving DecidableEq, Repr

/-- A provider's failure in the middle of a stream. -/
structure StreamFault where
  /-- What went wrong. -/
  text : String
  /-- The kind of failure. -/
  type : Option String
deriving DecidableEq, Repr

/-- One piece of a streamed response. -/
structure Chunk where
  /-- The provider's identifier. -/
  id : String
  /-- The model that answers. -/
  model : String
  /-- The choices' shares. -/
  choices : List ChoiceFragment
  /-- Tokens spent. -/
  usage : Option Usage
  /-- A failure. -/
  error : Option StreamFault
deriving DecidableEq, Repr

/-- Reads a fragment of the function half of a call. -/
def FunctionFragment.decoder : Json.Decoder FunctionFragment :=
  (Json.Record.make FunctionFragment.mk
    |>.optional "name" .string
    |>.optional "arguments" .string).decoder "struct ApiStreamFunction"

/-- Reads a fragment of a call. -/
def CallFragment.decoder : Json.Decoder CallFragment :=
  (Json.Record.make CallFragment.mk
    |>.required "index" .word
    |>.optional "id" .string
    |>.optional "function" FunctionFragment.decoder).decoder "struct ApiStreamToolCall"

/-- Reads a fragment of a message. -/
def MessageFragment.decoder : Json.Decoder MessageFragment :=
  (Json.Record.make MessageFragment.mk
    |>.optional "role" .string
    |>.optional "content" .string
    |>.optional "refusal" .string
    |>.optional "tool_calls" (.list CallFragment.decoder)
    |>.optional "function_call" FunctionFragment.decoder).decoder "struct ApiStreamDelta"

/-- Reads a choice's share. -/
def ChoiceFragment.decoder : Json.Decoder ChoiceFragment :=
  (Json.Record.make ChoiceFragment.mk
    |>.orElse "index" .word 0
    |>.required "delta" MessageFragment.decoder
    |>.optional "finish_reason" .string).decoder "struct ApiStreamChoice"

/-- Reads a failure. -/
def StreamFault.decoder : Json.Decoder StreamFault :=
  (Json.Record.make StreamFault.mk
    |>.orElse "message" .string ""
    |>.optional "type" .string).decoder "struct ApiStreamError"

/-- Reads a piece. -/
def Chunk.decoder : Json.Decoder Chunk :=
  (Json.Record.make Chunk.mk
    |>.orElse "id" .string ""
    |>.orElse "model" .string ""
    |>.orElse "choices" (.list ChoiceFragment.decoder) []
    |>.optional "usage" usageDecoder
    |>.optional "error" StreamFault.decoder).decoder "struct ApiStreamChunk"

/-- The wording of a reported failure, `{message} ({type})`. -/
def StreamFault.message (f : StreamFault) : String :=
  let text := if f.text = "" then "unknown error" else f.text
  match f.type with
  | some type => text ++ " (" ++ type ++ ")"
  | none => text

/-- The role of a name; other names count as none. -/
def roleOf? : String → Option Role
  | "user" => some .user
  | "assistant" => some .assistant
  | "tool" => some .tool
  | _ => none

/-- The fragment of a call that stands on the wire. -/
def CallFragment.toDelta (c : CallFragment) : ToolCallDelta :=
  ⟨c.index, c.id, c.function.bind (·.name), c.function.bind (·.arguments)⟩

/-- A call in the old form is the call at position zero, if it says anything. -/
def FunctionFragment.toDeltas (f : FunctionFragment) : List ToolCallDelta :=
  if f.name.getD "" = "" ∧ f.arguments.getD "" = "" then [] else [⟨0, none, f.name, f.arguments⟩]

/-- The fragment of a message that stands on the wire. -/
def MessageFragment.toDelta (m : MessageFragment) : MessageDelta where
  role := m.role.bind roleOf?
  content := m.content
  refusal := m.refusal
  toolCalls :=
    (m.toolCalls.getD []).map CallFragment.toDelta ++
      (m.functionCall.map FunctionFragment.toDeltas).getD []

/-- The choice's share that stands on the wire. -/
def ChoiceFragment.toChoice (c : ChoiceFragment) : StreamChoice :=
  ⟨c.index, c.delta.toDelta, c.finishReason⟩

/-- The chunk that stands on the wire. -/
def Chunk.toChunk (c : Chunk) : StreamChunk :=
  ⟨c.id, c.model, c.choices.map ChoiceFragment.toChoice, c.usage⟩

/-- The chunk of a payload, `Chunk.toChunk`; a malformed payload and a reported `error` end the
stream as `streamInterrupted`. -/
def itemOf (payload : List Char) : StreamItem :=
  match Chunk.decoder.parse payload with
  | .error e => .error (.streamInterrupted ("unparseable stream chunk: " ++ e.message))
  | .ok c =>
    match c.error with
    | some f => .error (.streamInterrupted ("provider error: " ++ f.message))
    | none => .ok c.toChunk

end Colloquy.Wire
