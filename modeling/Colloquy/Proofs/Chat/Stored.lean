import Colloquy.Chat.Chunk
import Colloquy.Proofs.Json.Record
import Colloquy.Proofs.Json.Yield

/-! # Stored conversations

The values of a conversation are written as JSON and read back.  The arguments of a tool call are a
map, so their members are in canonical form, which reading keeps.  The main statement is
`stored_roundTrips`. -/

namespace Colloquy

open Json (listed present)

/-- How the JSON form of a type and its decoder belong together, for the values that there are. -/
structure RoundTrips {α : Type} (Valid : α → Prop) (write : α → Json) (d : Json.Decoder α) :
    Prop where
  /-- A value is read back from its JSON form, as it is written and in canonical form. -/
  back : ∀ a, Valid a → d.ofJson (write a) = .ok a ∧ d.ofJson (write a).canonical = .ok a
  /-- Whatever was read from some value and written again is read back. -/
  again : ∀ v a, d.ofJson v = .ok a →
    d.ofJson (write a) = .ok a ∧ d.ofJson (write a).canonical = .ok a
  /-- Whatever was read from some text and written again is read back. -/
  againText : ∀ text a, d.ofText text = .ok a →
    d.ofJson (write a) = .ok a ∧ d.ofJson (write a).canonical = .ok a

/-- A type round-trips if its values are read back, and only they are read. -/
theorem RoundTrips.of_takes {α : Type} {Valid : α → Prop} {write : α → Json} {d : Json.Decoder α}
    (takes : ∀ a, Valid a → d.Takes (write a) a) (valid : ∀ a, d.Yields a → Valid a) :
    RoundTrips Valid write d := by
  have back : ∀ a, Valid a → d.ofJson (write a) = .ok a ∧ d.ofJson (write a).canonical = .ok a :=
    fun a ok => ⟨(takes a ok).written, (takes a ok).canonical⟩
  constructor
  case back => exact back
  case again => exact fun v a read => back a (valid a (.inl ⟨v, read⟩))
  case againText => exact fun text a read => back a (valid a (Json.Decoder.yields_of_ofText read))

/-! ## Arguments -/

/-- Whether the arguments of a call are a map: its members are ordered by name, no name is repeated,
and so on within them. -/
def ToolFunction.Canonical (f : ToolFunction) : Prop :=
  (Json.obj f.arguments).canonical = .obj f.arguments

/-- Whether the arguments of a call are a map. -/
def ToolCall.Canonical (c : ToolCall) : Prop := c.function.Canonical

/-- Whether the arguments of all calls of a message are maps. -/
def Message.Canonical (m : Message) : Prop := ∀ c ∈ m.toolCalls, c.Canonical

/-- Whether the arguments of all calls of a choice are maps. -/
def Choice.Canonical (c : Choice) : Prop := c.message.Canonical

/-- Whether the arguments of all calls of a response are maps. -/
def ChatResponse.Canonical (r : ChatResponse) : Prop := ∀ c ∈ r.choices, c.Canonical

/-! ## Reading what was written -/

/-- A role is read from its name. -/
theorem Role.takes (r : Role) : decoder.Takes r.toJson r := by
  cases r <;> exact .of_canonical nofun rfl rfl

/-- A level of detail is read from its name. -/
theorem ImageDetail.takes (d : ImageDetail) : decoder.Takes d.toJson d := by
  cases d <;> exact .of_canonical nofun rfl rfl

/-- **A content part is read from its members**, whatever its kind. -/
theorem ContentPart.takes (p : ContentPart) : decoder.Takes p.toJson p := by
  cases p with
  | text t =>
    have members : toJson (text t) =
        .obj (present [("type", some (.str "text")), ("text", some (.str t))]) := rfl
    rw [members]
    refine Json.Tagged.decoder_takes "text" textRecord _ rfl (by decide) (by decide)
      (by simp) rfl ?_
    exact .required (.make _) rfl (Json.Decoder.takes_string t)
  | image data mediaType detail =>
    have members : toJson (image data mediaType detail) =
        .obj (present [("type", some (.str "image")),
          ("data", some (.arr (data.map fun b => .num (.int (.ofUInt8 b))))),
          ("media_type", some (.str mediaType)), ("detail", detail.map ImageDetail.toJson)]) := by
      simp [toJson]
    rw [members]
    refine Json.Tagged.decoder_takes "image" imageRecord _ rfl (by decide) (by decide) (by simp)
      rfl ?_
    refine .optional (.required (.required (.make _) rfl ?_) rfl ?_) rfl ?_
    · exact Json.Decoder.takes_list fun b _ => Json.Decoder.takes_byte b
    · exact Json.Decoder.takes_string mediaType
    · exact fun d _ => d.takes
  | imageUrl url detail =>
    have members : toJson (imageUrl url detail) =
        .obj (present [("type", some (.str "image_url")), ("url", some (.str url)),
          ("detail", detail.map ImageDetail.toJson)]) := by
      simp [toJson]
    rw [members]
    refine Json.Tagged.decoder_takes "image_url" imageUrlRecord _ rfl (by decide) (by decide)
      (by simp) rfl ?_
    refine .optional (.required (.make _) rfl ?_) rfl ?_
    · exact Json.Decoder.takes_string url
    · exact fun d _ => d.takes
  | refusal r =>
    have members : toJson (refusal r) =
        .obj (present [("type", some (.str "refusal")), ("refusal", some (.str r))]) := rfl
    rw [members]
    refine Json.Tagged.decoder_takes "refusal" refusalRecord _ rfl (by decide) (by decide)
      (by simp) rfl ?_
    exact .required (.make _) rfl (Json.Decoder.takes_string r)

/-- The function half of a call is read from its members. -/
theorem ToolFunction.takes {f : ToolFunction} (h : f.Canonical) : decoder.Takes f.toJson f := by
  have members : f.toJson =
      .obj (present [("name", some (.str f.name)), ("arguments", some (.obj f.arguments))]) := rfl
  rw [members]
  refine Json.Record.decoder_takes _ (by decide) (by simp) ?_
  refine .orElse (.required (.make _) rfl ?_) rfl ?_
  · exact Json.Decoder.takes_string f.name
  · exact Json.Decoder.takes_object h

/-- A call is read from its members. -/
theorem ToolCall.takes {c : ToolCall} (h : c.Canonical) : decoder.Takes c.toJson c := by
  have members : c.toJson =
      .obj (present [("id", some (.str c.id)), ("function", some c.function.toJson)]) := rfl
  rw [members]
  refine Json.Record.decoder_takes _ (by decide) (by simp) ?_
  refine .required (.required (.make _) rfl ?_) rfl ?_
  · exact Json.Decoder.takes_string c.id
  · exact ToolFunction.takes h

/-- **A message is read from its members.** -/
theorem Message.takes {m : Message} (h : m.Canonical) : decoder.Takes m.toJson m := by
  have members : m.toJson = .obj (present [("role", some m.role.toJson),
      ("content", listed (m.content.map ContentPart.toJson)),
      ("tool_calls", listed (m.toolCalls.map ToolCall.toJson)),
      ("tool_call_id", m.toolCallId.map .str)]) := by
    simp [toJson]
  rw [members]
  refine Json.Record.decoder_takes _ (by decide) (by simp) ?_
  refine .optional (.listed (.listed (.required (.make _) rfl m.role.takes) rfl ?_) rfl ?_) rfl ?_
  · exact fun p _ => p.takes
  · exact fun c mem => ToolCall.takes (h c mem)
  · exact fun id _ => Json.Decoder.takes_string id

/-- A usage is read from its members, whatever it is called in messages. -/
theorem Usage.takes (u : Usage) (title : String) : (record.decoder title).Takes u.toJson u := by
  have members : u.toJson = .obj (present [("prompt_tokens", some (.ofUInt32 u.promptTokens)),
      ("completion_tokens", some (.ofUInt32 u.completionTokens)),
      ("total_tokens", some (.ofUInt32 u.totalTokens))]) := rfl
  rw [members]
  refine Json.Record.decoder_takes _ (by decide) (by simp) ?_
  refine .required (.required (.required (.make _) rfl ?_) rfl ?_) rfl ?_
  all_goals exact Json.Decoder.takes_word _

/-- A choice is read from its members. -/
theorem Choice.takes {c : Choice} (h : c.Canonical) : decoder.Takes c.toJson c := by
  have members : c.toJson = .obj (present [("finish_reason", c.finishReason.map .str),
      ("index", some (.ofUInt32 c.index)), ("message", some c.message.toJson),
      ("structured_content", c.structuredContent.map .str)]) := by
    simp [toJson]
  rw [members]
  refine Json.Record.decoder_takes _ (by decide) (by simp) ?_
  refine .optional (.optional (.required (.required (.make _) rfl ?_) rfl ?_) rfl ?_) rfl ?_
  · exact Json.Decoder.takes_word c.index
  · exact Message.takes h
  · exact fun reason _ => Json.Decoder.takes_string reason
  · exact fun content _ => Json.Decoder.takes_string content

/-- **A response is read from its members.** -/
theorem ChatResponse.takes {r : ChatResponse} (h : r.Canonical) : decoder.Takes r.toJson r := by
  have members : r.toJson = .obj (present [("choices", some (.arr (r.choices.map Choice.toJson))),
      ("id", some (.str r.id)), ("model", some (.str r.model)),
      ("usage", r.usage.map Usage.toJson)]) := by
    simp [toJson]
  rw [members]
  refine Json.Record.decoder_takes _ (by decide) (by simp) ?_
  refine .optional (.required (.required (.orElse (.make _) rfl ?_) rfl ?_) rfl ?_) rfl ?_
  · exact Json.Decoder.takes_string r.id
  · exact Json.Decoder.takes_string r.model
  · exact Json.Decoder.takes_list fun c mem => Choice.takes (h c mem)
  · exact fun u _ => u.takes _

/-- A fragment of a call is read from its members. -/
theorem ToolCallDelta.takes (d : ToolCallDelta) : decoder.Takes d.toJson d := by
  have members : d.toJson = .obj (present [("arguments", d.arguments.map .str),
      ("id", d.id.map .str), ("index", some (.ofUInt32 d.index)), ("name", d.name.map .str)]) := by
    simp [toJson]
  rw [members]
  refine Json.Record.decoder_takes _ (by decide) (by simp) ?_
  refine .optional (.optional (.optional (.required (.make _) rfl ?_) rfl ?_) rfl ?_) rfl ?_
  · exact Json.Decoder.takes_word d.index
  all_goals exact fun text _ => Json.Decoder.takes_string text

/-- A fragment of a message is read from its members. -/
theorem MessageDelta.takes (d : MessageDelta) : decoder.Takes d.toJson d := by
  have members : d.toJson = .obj (present [("content", d.content.map .str),
      ("refusal", d.refusal.map .str), ("role", d.role.map Role.toJson),
      ("tool_calls", listed (d.toolCalls.map ToolCallDelta.toJson))]) := by
    simp [toJson]
  rw [members]
  refine Json.Record.decoder_takes _ (by decide) (by simp) ?_
  refine .listed (.optional (.optional (.optional (.make _) rfl ?_) rfl ?_) rfl ?_) rfl ?_
  · exact fun r _ => r.takes
  · exact fun text _ => Json.Decoder.takes_string text
  · exact fun text _ => Json.Decoder.takes_string text
  · exact fun c _ => c.takes

/-- A choice's share is read from its members. -/
theorem StreamChoice.takes (c : StreamChoice) : decoder.Takes c.toJson c := by
  have members : c.toJson = .obj (present [("delta", some c.delta.toJson),
      ("finish_reason", c.finishReason.map .str), ("index", some (.ofUInt32 c.index))]) := by
    simp [toJson]
  rw [members]
  refine Json.Record.decoder_takes _ (by decide) (by simp) ?_
  refine .optional (.orElse (.required (.make _) rfl ?_) rfl ?_) rfl ?_
  · exact Json.Decoder.takes_word c.index
  · exact c.delta.takes
  · exact fun reason _ => Json.Decoder.takes_string reason

/-- **A chunk is read from its members.** -/
theorem StreamChunk.takes (c : StreamChunk) : decoder.Takes c.toJson c := by
  have members : c.toJson = .obj (present [("choices", some (.arr (c.choices.map
      StreamChoice.toJson))), ("id", some (.str c.id)), ("model", some (.str c.model)),
      ("usage", c.usage.map Usage.toJson)]) := by
    simp [toJson]
  rw [members]
  refine Json.Record.decoder_takes _ (by decide) (by simp) ?_
  refine .optional (.orElse (.orElse (.orElse (.make _) rfl ?_) rfl ?_) rfl ?_) rfl ?_
  · exact Json.Decoder.takes_string c.id
  · exact Json.Decoder.takes_string c.model
  · exact Json.Decoder.takes_list fun c _ => c.takes
  · exact fun u _ => u.takes _

/-! ## What was read -/

/-- The arguments of a call that was read are a map. -/
theorem ToolFunction.canonical_of_yields {f : ToolFunction} (h : decoder.Yields f) :
    f.Canonical := by
  obtain ⟨_, arguments, rfl, ⟨_, name, rfl, rfl, -⟩, read | absent⟩ := Json.Record.yields h
  · exact read.canonical
  · obtain rfl := Option.some.inj absent
    rfl

/-- The arguments of a call that was read are a map. -/
theorem ToolCall.canonical_of_yields {c : ToolCall} (h : decoder.Yields c) : c.Canonical := by
  obtain ⟨_, function, rfl, ⟨_, id, rfl, rfl, -⟩, read | absent⟩ := Json.Record.yields h
  · exact ToolFunction.canonical_of_yields read
  · cases absent

/-- The arguments of the calls of a message that was read are maps. -/
theorem Message.canonical_of_yields {m : Message} (h : decoder.Yields m) : m.Canonical := by
  obtain ⟨_, id, rfl, ⟨_, calls, rfl, ⟨_, content, rfl, ⟨_, role, rfl, rfl, -⟩, -⟩,
    read | absent⟩, -⟩ := Json.Record.yields h
  · exact fun c mem => ToolCall.canonical_of_yields (read.of_list c mem)
  · obtain rfl := Option.some.inj absent
    exact nofun

/-- The arguments of the calls of a choice that was read are maps. -/
theorem Choice.canonical_of_yields {c : Choice} (h : decoder.Yields c) : c.Canonical := by
  obtain ⟨_, _, rfl, ⟨_, _, rfl, ⟨_, message, rfl, ⟨_, _, rfl, rfl, -⟩, read | absent⟩, -⟩, -⟩ :=
    Json.Record.yields h
  · exact Message.canonical_of_yields read
  · cases absent

/-- The arguments of the calls of a response that was read are maps. -/
theorem ChatResponse.canonical_of_yields {r : ChatResponse} (h : decoder.Yields r) :
    r.Canonical := by
  obtain ⟨_, _, rfl, ⟨_, choices, rfl, ⟨_, _, rfl, ⟨_, _, rfl, rfl, -⟩, -⟩, read | absent⟩, -⟩ :=
    Json.Record.yields h
  · exact fun c mem => Choice.canonical_of_yields (read.of_list c mem)
  · cases absent

/-! ## Round trips -/

/-- **Conversations can be stored**: messages, responses, chunks and all that they consist of are
read back from what they are written as, and what was read is written and read back as the same. -/
theorem stored_roundTrips :
    RoundTrips (fun _ => True) ContentPart.toJson ContentPart.decoder ∧
    RoundTrips ToolCall.Canonical ToolCall.toJson ToolCall.decoder ∧
    RoundTrips Message.Canonical Message.toJson Message.decoder ∧
    RoundTrips (fun _ => True) Usage.toJson Usage.decoder ∧
    RoundTrips Choice.Canonical Choice.toJson Choice.decoder ∧
    RoundTrips ChatResponse.Canonical ChatResponse.toJson ChatResponse.decoder ∧
    RoundTrips (fun _ => True) ToolCallDelta.toJson ToolCallDelta.decoder ∧
    RoundTrips (fun _ => True) MessageDelta.toJson MessageDelta.decoder ∧
    RoundTrips (fun _ => True) StreamChoice.toJson StreamChoice.decoder ∧
    RoundTrips (fun _ => True) StreamChunk.toJson StreamChunk.decoder := by
  have free : ∀ {α : Type} {write : α → Json} {d : Json.Decoder α},
      (∀ a, d.Takes (write a) a) → RoundTrips (fun _ => True) write d :=
    fun takes => .of_takes (fun a _ => takes a) fun _ _ => trivial
  exact ⟨free ContentPart.takes,
    .of_takes (fun _ => ToolCall.takes) fun _ => ToolCall.canonical_of_yields,
    .of_takes (fun _ => Message.takes) fun _ => Message.canonical_of_yields,
    free fun u => u.takes _,
    .of_takes (fun _ => Choice.takes) fun _ => Choice.canonical_of_yields,
    .of_takes (fun _ => ChatResponse.takes) fun _ => ChatResponse.canonical_of_yields,
    free ToolCallDelta.takes, free MessageDelta.takes, free StreamChoice.takes,
    free StreamChunk.takes⟩

/-- A message with parts of every kind and a call. -/
def keepsake : Message where
  role := .assistant
  content := [.text "", .image [0, 255] "image/png" none, .imageUrl "u" (some .low), .refusal "no"]
  toolCalls := [.new "c" "t" [("a", .obj [("b", .null), ("c", .arr [])]), ("d", .str "e")]]
  toolCallId := none

/-- It is read back. -/
theorem stored_roundTrips_keepsake :
    keepsake.Canonical ∧ Message.decoder.ofJson keepsake.toJson = .ok keepsake := by
  have canonical : keepsake.Canonical := List.forall_mem_singleton.mpr rfl
  exact ⟨canonical, (stored_roundTrips.2.2.1.back keepsake canonical).1⟩

end Colloquy
