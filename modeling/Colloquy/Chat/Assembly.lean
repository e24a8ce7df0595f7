import Colloquy.Chat.Chunk
import Colloquy.Error
import Colloquy.Text.Blank

/-! # Assembly of streamed responses

Folding fragments back into messages.  Text is appended, the last role and finish reason win, and so
does the last identifier or name that is not empty.  Choices and tool calls are kept by index, in
ascending order, whatever the order of arrival. -/

namespace Colloquy

/-- Values by index, in strictly ascending order of the indices. -/
abbrev ByIndex (α : Type) := List (UInt32 × α)

namespace ByIndex

variable {α : Type}

/-- The map in which `f` was applied to the value at `index`, or to `fresh` where there was none. -/
def update (index : UInt32) (fresh : α) (f : α → α) : ByIndex α → ByIndex α
  | [] => [(index, f fresh)]
  | (i, a) :: rest =>
    if index < i then (index, f fresh) :: (i, a) :: rest
    else if index = i then (i, f a) :: rest
    else (i, a) :: update index fresh f rest

/-- The value at an index. -/
def find? (index : UInt32) : ByIndex α → Option α
  | [] => none
  | (i, a) :: rest => if index = i then some a else find? index rest

end ByIndex

/-- The text `new`, or `old` where `new` is empty. -/
def lastNonempty (old : String) (new : String) : String :=
  if new = "" then old else new

/-- What is known of a tool call. -/
structure PartialCall where
  /-- The call's identifier. -/
  id : String
  /-- The tool's name. -/
  name : String
  /-- The argument text so far. -/
  arguments : String
deriving DecidableEq, Repr

namespace PartialCall

/-- Nothing is known. -/
def empty : PartialCall := ⟨"", "", ""⟩

/-- Merge a fragment: `lastNonempty` for `id` and `name`, and argument text is appended. -/
def absorb (d : ToolCallDelta) (c : PartialCall) : PartialCall where
  id := lastNonempty c.id (d.id.getD "")
  name := lastNonempty c.name (d.name.getD "")
  arguments := c.arguments ++ d.arguments.getD ""

/-- The arguments of a call: blank text stands for none, and all other text has to be a JSON object,
or else the call fails with `invalidToolArguments index`. -/
def decodeArguments (index : UInt32) (text : String) :
    Except StreamError (List (String × Json)) :=
  if text.toList.all Text.isBlank then .ok []
  else
    match Json.ofText text with
    | .ok (.obj fields) => .ok fields
    | .ok v => .error (.invalidToolArguments index ("expected a JSON object, got " ++ v.compact))
    | .error e => .error (.invalidToolArguments index e.message)

/-- The complete call, by `decodeArguments` of its argument text. -/
def finish (index : UInt32) (c : PartialCall) : Except StreamError ToolCall := do
  .ok (.new c.id c.name (← decodeArguments index c.arguments))

end PartialCall

/-- What is known of a message. -/
structure PartialMessage where
  /-- The last role. -/
  role : Option Role
  /-- The text so far. -/
  content : String
  /-- The refusal so far. -/
  refusal : String
  /-- The tool calls so far. -/
  toolCalls : ByIndex PartialCall
deriving DecidableEq, Repr

namespace PartialMessage

/-- Nothing is known. -/
def empty : PartialMessage := ⟨none, "", "", []⟩

/-- Merge a fragment of a tool call into the one at `d.index`, or into `PartialCall.empty`. -/
def absorbCall (calls : ByIndex PartialCall) (d : ToolCallDelta) : ByIndex PartialCall :=
  ByIndex.update d.index .empty (PartialCall.absorb d) calls

/-- Merge a fragment: `content` and `refusal` are appended, `role` is replaced, and the calls go to
`absorbCall`; what it does not mention stays as it is. -/
def absorb (d : MessageDelta) (m : PartialMessage) : PartialMessage where
  role := d.role.or m.role
  content := m.content ++ d.content.getD ""
  refusal := m.refusal ++ d.refusal.getD ""
  toolCalls := d.toolCalls.foldl absorbCall m.toolCalls

/-- The parts of the complete message: a text and a refusal, each only if it is not empty. -/
def parts (m : PartialMessage) : List ContentPart :=
  (if m.content = "" then [] else [.text m.content]) ++
    (if m.refusal = "" then [] else [.refusal m.refusal])

/-- The complete message, from `assistant` unless a role was named; the first call that
`PartialCall.finish` refuses fails it. -/
def finish (m : PartialMessage) : Except StreamError Message := do
  let calls ← m.toolCalls.mapM fun c => c.2.finish c.1
  .ok ⟨m.role.getD .assistant, m.parts, calls, none⟩

end PartialMessage

/-- What is known of a choice. -/
structure PartialChoice where
  /-- The message so far. -/
  message : PartialMessage
  /-- The last finish reason. -/
  finishReason : Option String
deriving DecidableEq, Repr

namespace PartialChoice

/-- Nothing is known. -/
def empty : PartialChoice := ⟨.empty, none⟩

/-- Merge a choice's share of a chunk: its `delta` into the message, and its finish reason in place
of the old one. -/
def absorb (c : StreamChoice) (p : PartialChoice) : PartialChoice where
  message := p.message.absorb c.delta
  finishReason := c.finishReason.or p.finishReason

/-- The complete choice. -/
def finish (index : UInt32) (p : PartialChoice) : Except StreamError Choice := do
  .ok ⟨index, ← p.message.finish, p.finishReason, none⟩

end PartialChoice

/-- What is known of a response. -/
structure PartialResponse where
  /-- The last identifier. -/
  id : String
  /-- The last model. -/
  model : String
  /-- The choices so far. -/
  choices : ByIndex PartialChoice
  /-- The last usage. -/
  usage : Option Usage
deriving DecidableEq, Repr

namespace PartialResponse

/-- Nothing is known. -/
def empty : PartialResponse := ⟨"", "", [], none⟩

/-- Merge a share of a chunk into the choice at `c.index`, or into `PartialChoice.empty`. -/
def absorbChoice (choices : ByIndex PartialChoice) (c : StreamChoice) : ByIndex PartialChoice :=
  ByIndex.update c.index .empty (PartialChoice.absorb c) choices

/-- Merge a chunk: `lastNonempty` for `id` and `model`, the shares go to `absorbChoice`, and the
last `usage` counts. -/
def absorb (r : PartialResponse) (chunk : StreamChunk) : PartialResponse where
  id := lastNonempty r.id chunk.id
  model := lastNonempty r.model chunk.model
  choices := chunk.choices.foldl absorbChoice r.choices
  usage := chunk.usage.or r.usage

/-- What is known after some chunks: `absorb` each in turn, from `empty` on. -/
def ofChunks (chunks : List StreamChunk) : PartialResponse :=
  chunks.foldl absorb .empty

/-- The complete response, choices in order of their indices; `noChoices` if there are none. -/
def finish (r : PartialResponse) : Except StreamError ChatResponse :=
  if r.choices.isEmpty then .error .noChoices
  else do
    let choices ← r.choices.mapM fun c => c.2.finish c.1
    .ok ⟨r.id, r.model, choices, r.usage⟩

end PartialResponse

end Colloquy
