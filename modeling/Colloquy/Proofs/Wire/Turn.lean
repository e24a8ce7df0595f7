import Colloquy.Proofs.Chat.Stored
import Colloquy.Proofs.Chat.Streaming
import Colloquy.Proofs.Json.Faithful
import Colloquy.Wire.Request
import Colloquy.Wire.Response

/-! # Turns over the wire

An assistant's message is sent back as part of the conversation in the form in which the assistant
sent it, but the two directions are written apart: missing text is `null` one way and may be left
out the other way, a refusal is a member of its own, and the arguments of a call are JSON text
within JSON.  The main statement is `Wire.turn_survives`: a response that is written as the provider
would write it is read with its messages in normal form, from the value as from its text, and the
conversation of a request holds one entry a message. -/

namespace Colloquy

open Json (listed present)

/-- Whether a message is an assistant's with calls that can be written and read back. -/
structure Message.Sendable (m : Message) : Prop where
  /-- The assistant sent it. -/
  assistant : m.role = .assistant
  /-- Numbers in arguments are integers, and arguments nest no deeper than is read. -/
  plain : ∀ c ∈ m.toolCalls, Json.Plain 127 (.obj c.arguments)
  /-- Arguments are maps. -/
  canonical : m.Canonical

/-- The normal form is its own normal form. -/
theorem Message.normal_normal (m : Message) : m.normal.normal = m.normal := by
  rw [normal, m.text_normal, m.refusal_normal]
  rfl

/-- The normal form can be sent as well. -/
theorem Message.Sendable.normal {m : Message} (h : m.Sendable) : m.normal.Sendable :=
  ⟨h.assistant, h.plain, h.canonical⟩

/-- The response with its messages in normal form, from which nothing has been extracted. -/
def ChatResponse.normal (r : ChatResponse) : ChatResponse :=
  { r with choices := r.choices.map Choice.normal }

/-- The normal form is its own normal form. -/
theorem ChatResponse.normal_normal (r : ChatResponse) : r.normal.normal = r.normal := by
  have each : ∀ c : Choice, c.normal.normal = c.normal := by
    intro c
    simp only [Choice.normal, c.message.normal_normal]
  simp only [normal, List.map_map, Function.comp_def, each]

namespace Wire

/-! ## Writing a response -/

/-- A choice, with its message in the form that it has in a conversation. -/
def choiceEntry (c : Choice) : Json :=
  .obj (Json.optional "finish_reason" (c.finishReason.map .str) ++
    [("index", .ofUInt32 c.index), ("message", messageEntry c.message)])

/-- A response. -/
def replyEntry (r : ChatResponse) : Json :=
  .obj ([("choices", .arr (r.choices.map choiceEntry)), ("id", .str r.id),
    ("model", .str r.model)] ++ Json.optional "usage" (r.usage.map Usage.toJson))

/-- **`messageEntry` writes an assistant's message as its normal form.** -/
theorem messageEntry_normal {m : Message} (assistant : m.role = .assistant) :
    messageEntry m.normal = messageEntry m := by
  have same : m.normal.role = .assistant := assistant
  simp only [messageEntry, assistant, same, m.text_normal, m.refusal_normal]
  rfl

/-! ## Reading what was written -/

/-- A call as it stands on the wire. -/
def CallEntry.ofCall (c : ToolCall) : CallEntry := ⟨c.id, "function", c.name, c.argumentText⟩

/-- An assistant's message as it stands on the wire. -/
def ReplyMessage.ofMessage (m : Message) : ReplyMessage where
  content := if m.text = "" then none else some m.text
  refusal := m.refusal
  toolCalls := if m.toolCalls = [] then none else some (m.toolCalls.map .ofCall)

/-- A choice as it stands on the wire. -/
def ReplyChoice.ofChoice (c : Choice) : ReplyChoice :=
  ⟨c.index, .ofMessage c.message, c.finishReason⟩

/-- A response as it stands on the wire. -/
def Reply.ofResponse (r : ChatResponse) : Reply :=
  ⟨r.id, r.model, r.choices.map .ofChoice, r.usage⟩

/-- The function half of a call is read from its members. -/
theorem FunctionEntry.takes (name arguments : String) :
    decoder.Takes (.obj [("arguments", .str arguments), ("name", .str name)])
      ⟨name, arguments⟩ := by
  have members : Json.obj [("arguments", .str arguments), ("name", .str name)] =
      .obj (present [("arguments", some (.str arguments)), ("name", some (.str name))]) := rfl
  rw [members]
  refine Json.Record.decoder_takes _ (by decide) (by simp) ?_
  refine .orElse (.required (.make _) rfl ?_) rfl ?_
  all_goals exact Json.Decoder.takes_string _

/-- A call is read from its members. -/
theorem CallEntry.takes (c : ToolCall) : decoder.Takes (toolCallEntry c) (.ofCall c) := by
  have members : toolCallEntry c = .obj (present [("function",
      some (.obj [("arguments", .str c.argumentText), ("name", .str c.name)])),
      ("id", some (.str c.id)), ("type", some (.str "function"))]) := rfl
  rw [members]
  refine Json.Record.decoder_takes _ (by decide) (by simp) ?_
  refine .required (.required (.required (.make _) rfl ?_) rfl ?_) rfl ?_
  · exact Json.Decoder.takes_string c.id
  · exact Json.Decoder.takes_string "function"
  · exact FunctionEntry.takes c.name c.argumentText

/-- **An assistant's message is read from its members**, whatever it holds. -/
theorem ReplyMessage.takes {m : Message} (assistant : m.role = .assistant) :
    decoder.Takes (messageEntry m) (.ofMessage m) := by
  have content : assistantText m.text =
      ((if m.text = "" then none else some m.text).map Json.str).getD .null := by
    rw [assistantText]
    split <;> rfl
  have members : messageEntry m = .obj (present [("content", some (assistantText m.text)),
      ("refusal", m.refusal.map .str), ("role", some (.str "assistant")),
      ("tool_calls", listed (m.toolCalls.map toolCallEntry))]) := by
    simp [messageEntry, assistant]
  rw [members]
  refine Json.Record.decoder_takes _ (by decide) (by simp) ?_
  -- The role is written for the provider; it is no field of what is read.
  refine .optional (.optional (.orNull (.make _) (congrArg some content) ?_) rfl ?_)
    (g := fun _ => .arr (m.toolCalls.map toolCallEntry)) ?_ ?_
  · exact fun text _ => Json.Decoder.takes_string text
  · exact fun text _ => Json.Decoder.takes_string text
  · cases m.toolCalls <;> rfl
  · intro entries same
    split at same
    · cases same
    · obtain rfl := Option.some.inj same
      exact Json.Decoder.takes_map fun c _ => CallEntry.takes c

/-- A choice is read from its members. -/
theorem ReplyChoice.takes {c : Choice} (assistant : c.message.role = .assistant) :
    decoder.Takes (choiceEntry c) (.ofChoice c) := by
  have members : choiceEntry c = .obj (present [("finish_reason", c.finishReason.map .str),
      ("index", some (.ofUInt32 c.index)), ("message", some (messageEntry c.message))]) := by
    simp [choiceEntry]
  rw [members]
  refine Json.Record.decoder_takes _ (by decide) (by simp) ?_
  refine .optional (.required (.orElse (.make _) rfl ?_) rfl ?_) rfl ?_
  · exact Json.Decoder.takes_word c.index
  · exact ReplyMessage.takes assistant
  · exact fun reason _ => Json.Decoder.takes_string reason

/-- **A response is read from its members.** -/
theorem Reply.takes {r : ChatResponse} (assistant : ∀ c ∈ r.choices, c.message.role = .assistant) :
    decoder.Takes (replyEntry r) (.ofResponse r) := by
  have members : replyEntry r = .obj (present [("choices", some (.arr (r.choices.map choiceEntry))),
      ("id", some (.str r.id)), ("model", some (.str r.model)),
      ("usage", r.usage.map Usage.toJson)]) := by
    simp [replyEntry]
  rw [members]
  refine Json.Record.decoder_takes _ (by decide) (by simp) ?_
  refine .optional (.required (.orElse (.orElse (.make _) rfl ?_) rfl ?_) rfl ?_) rfl ?_
  · exact Json.Decoder.takes_string r.id
  · exact Json.Decoder.takes_string r.model
  · exact Json.Decoder.takes_map fun c mem => ReplyChoice.takes (assistant c mem)
  · exact fun u _ => u.takes _

/-- Responses are read faithfully. -/
theorem Reply.faithful : decoder.Faithful := by
  have string : Json.Decoder.string.Faithful := Json.Decoder.faithful_text _
  have word : Json.Decoder.word.Faithful := Json.Decoder.faithful_integer _ _
  have function : FunctionEntry.decoder.Faithful :=
    Json.Record.faithful ⟨⟨trivial, string⟩, string⟩
  have call : CallEntry.decoder.Faithful :=
    Json.Record.faithful ⟨⟨⟨trivial, string⟩, string⟩, function⟩
  have message : ReplyMessage.decoder.Faithful :=
    Json.Record.faithful ⟨⟨⟨trivial, string.option⟩, string.option⟩, call.list.option⟩
  have choice : ReplyChoice.decoder.Faithful :=
    Json.Record.faithful ⟨⟨⟨trivial, word⟩, message⟩, string.option⟩
  have usage : usageDecoder.Faithful := Json.Record.faithful ⟨⟨⟨trivial, word⟩, word⟩, word⟩
  exact Json.Record.faithful ⟨⟨⟨⟨trivial, string⟩, string⟩, choice.list⟩, usage.option⟩

/-! ## What it stands for -/

/-- `CallEntry.toCall` of a call on the wire is the call. -/
theorem CallEntry.toCall_ofCall {c : ToolCall} (plain : Json.Plain 127 (.obj c.arguments))
    (canonical : c.Canonical) : (ofCall c).toCall = .ok c := by
  have read : argumentsOf c.argumentText = .ok c.arguments := by
    rw [argumentsOf, c.visible_argumentText, if_neg Bool.false_ne_true,
      ToolCall.ofText_argumentText plain canonical]
  simp only [toCall, ofCall, read]
  rfl

/-- **`ReplyMessage.toMessage` of a message on the wire is its normal form.** -/
theorem ReplyMessage.toMessage_ofMessage {m : Message} (h : m.Sendable) :
    (ofMessage m).toMessage = .ok m.normal := by
  have text : (ofMessage m).content.getD "" = m.text := by
    rw [ofMessage]
    split
    · next empty => exact empty.symm
    · rfl
  have calls : ((ofMessage m).toolCalls.getD []).mapM CallEntry.toCall = .ok m.toolCalls := by
    have entries : (ofMessage m).toolCalls.getD [] = m.toolCalls.map .ofCall := by
      rw [ofMessage]
      cases m.toolCalls <;> rfl
    have each : ∀ c ∈ m.toolCalls, (CallEntry.ofCall c).toCall = .ok c :=
      fun c mem => CallEntry.toCall_ofCall (h.plain c mem) (h.canonical c mem)
    have read := Except.mapM_eq_ok_map (g := id) each
    rw [entries, List.mapM_map]
    rwa [List.map_id] at read
  rw [toMessage, text, calls]
  simp only [Message.normal, h.assistant]
  rfl

/-- **`Reply.toResponse` of a response on the wire is the response with its messages in normal
form.** -/
theorem Reply.toResponse_ofResponse {r : ChatResponse} (h : ∀ c ∈ r.choices, c.message.Sendable) :
    (ofResponse r).toResponse = .ok r.normal := by
  have each : ∀ c ∈ r.choices, (ReplyChoice.ofChoice c).toChoice = .ok c.normal := by
    intro c mem
    simp only [ReplyChoice.toChoice, ReplyChoice.ofChoice,
      ReplyMessage.toMessage_ofMessage (h c mem)]
    rfl
  have choices : (ofResponse r).choices.mapM ReplyChoice.toChoice =
      .ok (r.choices.map Choice.normal) := by
    rw [ofResponse, List.mapM_map]
    exact Except.mapM_eq_ok_map each
  rw [toResponse, choices]
  rfl

/-! ## There and back -/

/-- A member that may be left out nests no deeper than its value. -/
theorem plain_optional {n : Nat} {name : String} {o : Option Json}
    (h : ∀ v, o = some v → Json.Plain n v) : ∀ f ∈ Json.optional name o, Json.Plain n f.2 := by
  cases o with
  | none => exact nofun
  | some v => exact List.forall_mem_singleton.mpr (h v rfl)

/-- Text that may be left out does not nest. -/
theorem plain_optional_str (n : Nat) (name : String) (o : Option String) :
    ∀ f ∈ Json.optional name (o.map .str), Json.Plain n f.2 := by
  refine plain_optional fun v given => ?_
  obtain ⟨text, -, rfl⟩ := Option.map_eq_some_iff.mp given
  exact .str text

/-- A call nests two levels deep. -/
theorem plain_toolCallEntry (n : Nat) (c : ToolCall) : Json.Plain (n + 2) (toolCallEntry c) := by
  refine .obj ?_
  simp only [List.forall_mem_cons]
  refine ⟨.obj ?_, .str _, .str _, nofun⟩
  simp only [List.forall_mem_cons]
  exact ⟨.str _, .str _, nofun⟩

/-- An assistant's message nests four levels deep. -/
theorem plain_messageEntry (n : Nat) {m : Message} (assistant : m.role = .assistant) :
    Json.Plain (n + 4) (messageEntry m) := by
  have content : Json.Plain (n + 3) (assistantText m.text) := by
    rw [assistantText]
    split
    · exact .null
    · exact .str _
  have calls : ∀ f ∈ Json.unlessEmpty "tool_calls" (m.toolCalls.map toolCallEntry),
      Json.Plain (n + 3) f.2 := by
    have items : Json.Plain (n + 3) (.arr (m.toolCalls.map toolCallEntry)) :=
      .arr (List.forall_mem_map.mpr fun c _ => plain_toolCallEntry n c)
    cases given : m.toolCalls with
    | nil => exact nofun
    | cons c cs => exact List.forall_mem_singleton.mpr (given ▸ items)
  simp only [messageEntry, assistant]
  refine .obj ?_
  simp only [List.forall_mem_append, List.forall_mem_singleton]
  exact ⟨⟨⟨content, plain_optional_str _ _ _⟩, .str _⟩, calls⟩

/-- A response nests seven levels deep, whatever the arguments of its calls. -/
theorem plain_replyEntry (n : Nat) {r : ChatResponse}
    (assistant : ∀ c ∈ r.choices, c.message.role = .assistant) :
    Json.Plain (n + 7) (replyEntry r) := by
  have choices : ∀ c ∈ r.choices, Json.Plain (n + 5) (choiceEntry c) := by
    intro c mem
    refine .obj ?_
    simp only [List.forall_mem_append, List.forall_mem_cons]
    exact ⟨plain_optional_str _ _ _, .int _, plain_messageEntry n (assistant c mem), nofun⟩
  have usage : ∀ u : Usage, Json.Plain (n + 6) u.toJson := by
    refine fun u => .obj ?_
    simp only [List.forall_mem_cons]
    exact ⟨.int _, .int _, .int _, nofun⟩
  refine .obj ?_
  simp only [List.forall_mem_append, List.forall_mem_cons]
  refine ⟨⟨.arr (List.forall_mem_map.mpr choices), .str _, .str _, nofun⟩, plain_optional ?_⟩
  intro v given
  obtain ⟨u, -, rfl⟩ := Option.map_eq_some_iff.mp given
  exact usage u

/-- Whether a value and its text are understood as a response. -/
def Understood (v : Json) (r : ChatResponse) : Prop :=
  ∃ reply, Reply.decoder.ofJson v = .ok reply ∧ Reply.decoder.ofText v.compact = .ok reply ∧
    reply.toResponse = .ok r

/-- Whether a response survives being written and read, up to the normal form of its messages. -/
structure Survives (r : ChatResponse) : Prop where
  /-- It is understood with its messages in normal form. -/
  back : Understood (replyEntry r) r.normal
  /-- What was understood can be written and read in turn. -/
  sendable : ∀ c ∈ r.normal.choices, c.message.Sendable
  /-- What was understood is written in the same way. -/
  rewritten : replyEntry r.normal = replyEntry r
  /-- What was understood is understood as it is from then on. -/
  again : Understood (replyEntry r.normal) r.normal
  /-- The normal form is its own normal form. -/
  fixed : r.normal.normal = r.normal
  /-- The normal form of a message has the text in one part and the refusal in another, where there
  are any, and the same calls. -/
  normal : ∀ c ∈ r.choices, c.message.normal =
    { role := .assistant
      content := (if c.message.text = "" then [] else [.text c.message.text]) ++
        (c.message.refusal.map ContentPart.refusal).toList
      toolCalls := c.message.toolCalls
      toolCallId := none }

/-- How the conversation of a request is laid out in its body. -/
structure LaidOut (r : ChatRequest) (body : Json) : Prop where
  /-- The system prompt comes first, if there is one, and then one entry a message. -/
  messages : Json.field? "messages" body =
    some (.arr ((r.systemPrompt.map systemEntry).toList ++ r.messages.map messageEntry))
  /-- Every entry names the role of its message. -/
  roles : ∀ m ∈ r.messages, Json.field? "role" (messageEntry m) = some (.str m.role.name)
  /-- The answer to a tool call names the call and holds the text. -/
  results : ∀ m ∈ r.messages, m.role = .tool →
    Json.field? "tool_call_id" (messageEntry m) = some ((m.toolCallId.map Json.str).getD .null) ∧
      Json.field? "content" (messageEntry m) = some (.str m.text)

/-- A response whose messages can be sent survives. -/
theorem survives {r : ChatResponse} (h : ∀ c ∈ r.choices, c.message.Sendable) : Survives r := by
  have assistant : ∀ c ∈ r.choices, c.message.role = .assistant :=
    fun c mem => (h c mem).assistant
  have read := (Reply.takes assistant).written
  have back : Understood (replyEntry r) r.normal :=
    ⟨_, read, Reply.faithful.ofText_compact (plain_replyEntry 120 assistant) read,
      Reply.toResponse_ofResponse h⟩
  have rewritten : replyEntry r.normal = replyEntry r := by
    have each : ∀ c ∈ r.choices, choiceEntry c.normal = choiceEntry c := by
      intro c mem
      rw [choiceEntry, choiceEntry, Choice.normal, messageEntry_normal (assistant c mem)]
    simp only [replyEntry, ChatResponse.normal, List.map_map, Function.comp_def]
    rw [List.map_congr_left each]
  constructor
  case back => exact back
  case sendable => exact List.forall_mem_map.mpr fun c mem => (h c mem).normal
  case rewritten => exact rewritten
  case again => rwa [rewritten]
  case fixed => exact r.normal_normal
  case normal =>
    intro c mem
    rw [Message.normal, assistant c mem]

/-- **`chatBody` lays the conversation of a request out**, streamed or not. -/
theorem laidOut (r : ChatRequest) (stream : Bool) : LaidOut r (chatBody r stream) := by
  constructor
  case messages =>
    have ahead : ∀ (o : Option Json) (fields : List (String × Json)),
        Json.lookup "messages" (Json.optional "max_tokens" o ++ fields) =
          Json.lookup "messages" fields := by
      intro o fields
      cases o <;> rfl
    simp only [chatBody, Json.field?, List.append_assoc, ahead]
    rfl
  case roles =>
    intro m _
    cases role : m.role with
    | user => simp [messageEntry, role, Json.field?, Json.lookup, Role.name]
    | tool => simp [messageEntry, role, Json.field?, Json.lookup, Role.name]
    | assistant =>
      cases refusal : m.refusal <;>
        simp [messageEntry, role, refusal, Json.field?, Json.lookup, Json.optional, Role.name]
  case results =>
    intro m _ role
    simp [messageEntry, role, Json.field?, Json.lookup]

/-- **A turn survives the wire.**  A response is read with its messages in normal form, which
reading and writing leave as they are, and the conversation of a request holds one entry a message
after the system prompt. -/
theorem turn_survives :
    (∀ r : ChatResponse, (∀ c ∈ r.choices, c.message.Sendable) → Survives r) ∧
      ∀ (r : ChatRequest) (stream : Bool), LaidOut r (chatBody r stream) :=
  ⟨fun _ => survives, laidOut⟩

/-- A response with a message in several parts that asks for a tool. -/
def scattered : ChatResponse where
  id := "r"
  model := "m"
  choices :=
    [⟨0, ⟨.assistant, [.text "so ", .refusal "n", .imageUrl "u" none, .text "on", .refusal "o"],
      [.new "a" "f" [("n", .arr [.num (.int (.ofUInt32 7))]), ("s", .str "\"")]], some "x"⟩,
      some "stop", none⟩]
  usage := some (.new 1 2)

/-- It survives, as a message of one text, one refusal and the call. -/
theorem turn_survives_scattered :
    (∀ c ∈ scattered.choices, c.message.Sendable) ∧ Survives scattered ∧
      ∀ c ∈ scattered.choices, c.message.normal.content = [.text "so on", .refusal "no"] := by
  have sendable : ∀ c ∈ scattered.choices, c.message.Sendable := by
    refine List.forall_mem_singleton.mpr ⟨rfl, ?_, List.forall_mem_singleton.mpr rfl⟩
    refine List.forall_mem_singleton.mpr (.obj ?_)
    simp only [ToolCall.new, ToolCall.arguments, List.forall_mem_cons]
    exact ⟨.arr (List.forall_mem_singleton.mpr (.int _)), .str _, List.forall_mem_nil _⟩
  exact ⟨sendable, turn_survives.1 scattered sendable, List.forall_mem_singleton.mpr (by decide)⟩

end Wire

end Colloquy
