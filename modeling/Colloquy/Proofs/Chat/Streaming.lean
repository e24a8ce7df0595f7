import Colloquy.Chat.Client
import Colloquy.Proofs.Chat.ByIndex
import Colloquy.Proofs.Json.RoundTrip
import Mathlib.Data.List.Forall2

/-! # Waiting for a response or reading it as a stream

A provider without a stream of its own streams a whole response as one chunk.  Assembling that chunk
gives the response back with every message in normal form, and extraction treats messages alike that
read alike.  The main statement is `Client.chatStream_agrees`: it makes no difference to the caller
of such a provider whether it waits for the response or reads it as a stream. -/

namespace Colloquy

namespace Message

variable {m m' : Message}

/-- The message with its text and its refusal in one part each, where there are any. -/
def normal (m : Message) : Message where
  role := m.role
  content :=
    (if m.text = "" then [] else [.text m.text]) ++ (m.refusal.map ContentPart.refusal).toList
  toolCalls := m.toolCalls
  toolCallId := none

/-- Whether two messages read alike, however their contents are cut into parts. -/
structure Alike (m m' : Message) : Prop where
  /-- The same role. -/
  role : m.role = m'.role
  /-- The same text. -/
  text : m.text = m'.text
  /-- The same refusal. -/
  refusal : m.refusal = m'.refusal
  /-- The same tool calls in the same order. -/
  toolCalls : m.toolCalls = m'.toolCalls

/-- A refusal has words. -/
theorem refusal_ne_some_empty (m : Message) : m.refusal ≠ some "" := by
  rw [refusal]
  split
  · nofun
  · next worded => exact fun h => worded (Option.some.inj h)

/-- The text of the normal form is the text. -/
theorem text_normal (m : Message) : m.normal.text = m.text := by
  have refused : (m.refusal.map ContentPart.refusal).toList.filterMap ContentPart.text? = [] := by
    cases m.refusal <;> rfl
  rw [text, normal, List.filterMap_append, refused, List.append_nil]
  split
  · next empty => rw [empty]; rfl
  · rfl

/-- The refusal of the normal form is the refusal. -/
theorem refusal_normal (m : Message) : m.normal.refusal = m.refusal := by
  have said : (if m.text = "" then [] else [ContentPart.text m.text]).filterMap
      ContentPart.refusal? = [] := by
    split <;> rfl
  have worded := m.refusal_ne_some_empty
  rw [refusal, normal, List.filterMap_append, said, List.nil_append]
  cases given : m.refusal with
  | none => rfl
  | some r =>
    have nonempty : r ≠ "" := fun empty => worded (by rw [given, empty])
    simp [ContentPart.refusal?, nonempty]

/-- A message and its normal form read alike. -/
theorem alike_normal (m : Message) : m.Alike m.normal :=
  ⟨rfl, m.text_normal.symm, m.refusal_normal.symm, rfl⟩

end Message

/-! ## Assembling one chunk -/

/-- The first text counts. -/
theorem lastNonempty_empty (t : String) : lastNonempty "" t = t := by
  rw [lastNonempty]
  split
  · next none => exact none.symm
  · rfl

/-- `argumentText` is not blank. -/
theorem ToolCall.visible_argumentText (call : ToolCall) :
    call.argumentText.toList.all Text.isBlank = false := by
  rw [argumentText, Json.compact, String.toList_ofList]
  rfl

/-- **`argumentText` reads back**, if they can be written and are a map. -/
theorem ToolCall.ofText_argumentText {call : ToolCall}
    (plain : Json.Plain 127 (.obj call.arguments))
    (canonical : (Json.obj call.arguments).canonical = .obj call.arguments) :
    Json.ofText call.argumentText = .ok (.obj call.arguments) := by
  rw [argumentText, Json.ofText_compact plain, canonical]

/-- The call as a fragment amounts to the call, if its arguments read back. -/
theorem PartialCall.finish_ofCall {call : ToolCall} {position : UInt32} (i : Nat)
    (plain : Json.Plain 127 (.obj call.arguments))
    (canonical : (Json.obj call.arguments).canonical = .obj call.arguments) :
    (absorb (StreamChunk.ofCall i call) empty).finish position = .ok call := by
  have decoded : decodeArguments position call.argumentText = .ok call.arguments := by
    rw [decodeArguments, call.visible_argumentText, if_neg Bool.false_ne_true,
      ToolCall.ofText_argumentText plain canonical]
  simp only [finish, absorb, StreamChunk.ofCall, empty, Option.getD_some,
    lastNonempty_empty, String.empty_append, decoded]
  rfl

namespace ChatResponse

/-- Whether a response can be streamed as one chunk: it is a provider's response, with choices in
order that nothing has been extracted from, and the arguments of its calls read back.  Calls are
numbered by 32-bit words. -/
structure Streamable (r : ChatResponse) : Prop where
  /-- There are choices. -/
  answered : r.choices ≠ []
  /-- Their indices ascend. -/
  ascending : r.choices.Pairwise fun c d => c.index < d.index
  /-- Nothing has been extracted. -/
  unset : ∀ c ∈ r.choices, c.structuredContent = none
  /-- Numbers in arguments are integers, and arguments nest no deeper than is read. -/
  plain : ∀ c ∈ r.choices, ∀ call ∈ c.message.toolCalls, Json.Plain 127 (.obj call.arguments)
  /-- Objects in arguments are maps: their members are ordered by name, and no name is repeated. -/
  canonical : ∀ c ∈ r.choices, ∀ call ∈ c.message.toolCalls,
    (Json.obj call.arguments).canonical = .obj call.arguments
  /-- There are no more calls than numbers for them. -/
  numbered : ∀ c ∈ r.choices, c.message.toolCalls.length ≤ UInt32.size

end ChatResponse

/-- The choice with its message in normal form, from which nothing has been extracted. -/
def Choice.normal (c : Choice) : Choice :=
  { c with message := c.message.normal, structuredContent := none }

/-- Calls are numbered in ascending order. -/
theorem StreamChunk.ascending_ofCall {calls : List ToolCall}
    (numbered : calls.length ≤ UInt32.size) :
    (calls.mapIdx ofCall).Pairwise fun d e => d.index < e.index := by
  rw [List.pairwise_iff_getElem]
  intro i j hi hj below
  rw [List.length_mapIdx] at hi hj
  rw [List.getElem_mapIdx, List.getElem_mapIdx, ofCall, ofCall, UInt32.lt_iff_toNat_lt,
    UInt32.toNat_ofNat_of_lt' (Nat.lt_of_lt_of_le hi numbered),
    UInt32.toNat_ofNat_of_lt' (Nat.lt_of_lt_of_le hj numbered)]
  exact below

/-- **Calls that are streamed whole are put together again**, in their order. -/
theorem PartialMessage.mapM_finish_ofCall {calls : List ToolCall}
    (numbered : calls.length ≤ UInt32.size)
    (plain : ∀ call ∈ calls, Json.Plain 127 (.obj call.arguments))
    (canonical : ∀ call ∈ calls, (Json.obj call.arguments).canonical = .obj call.arguments) :
    ((calls.mapIdx StreamChunk.ofCall).foldl absorbCall []).mapM (fun p => p.2.finish p.1) =
      .ok calls := by
  have gathered : (calls.mapIdx StreamChunk.ofCall).foldl absorbCall [] =
      (calls.mapIdx StreamChunk.ofCall).map fun d => (d.index, PartialCall.absorb d .empty) :=
    ByIndex.gather_of_ascending ToolCallDelta.index PartialCall.empty PartialCall.absorb
      (StreamChunk.ascending_ofCall numbered)
  rw [gathered, List.mapIdx_eq_zipIdx_map, List.map_map, List.mapM_map]
  -- Each fragment is finished to the call that it was made of.
  have each : ∀ p ∈ calls.zipIdx,
      (PartialCall.absorb (StreamChunk.ofCall p.2 p.1) .empty).finish (UInt32.ofNat p.2) =
        .ok p.1 := by
    intro p hp
    have there := List.fst_mem_of_mem_zipIdx hp
    exact PartialCall.finish_ofCall p.2 (plain _ there) (canonical _ there)
  have finished := Except.mapM_eq_ok_map each
  rw [List.zipIdx_map_fst] at finished
  exact finished

/-- **`PartialMessage.finish` of a message in one fragment** is its normal form. -/
theorem PartialMessage.finish_ofChoice {r : ChatResponse} (h : r.Streamable) {c : Choice}
    (mem : c ∈ r.choices) :
    (absorb (StreamChunk.ofChoice c).delta empty).finish = .ok c.message.normal := by
  have calls := mapM_finish_ofCall (h.numbered c mem) (h.plain c mem) (h.canonical c mem)
  have text : (if c.message.text = "" then none else some c.message.text).getD "" =
      c.message.text := by
    split
    · next none => exact none.symm
    · rfl
  have refusal : (if c.message.refusal.getD "" = "" then []
      else [ContentPart.refusal (c.message.refusal.getD "")]) =
        (c.message.refusal.map ContentPart.refusal).toList := by
    have worded := c.message.refusal_ne_some_empty
    cases given : c.message.refusal with
    | none => rfl
    | some r => exact if_neg fun empty : r = "" => worded (by rw [given, empty])
  simp only [finish, absorb, StreamChunk.ofChoice, empty, calls, parts, text, refusal,
    String.empty_append]
  rfl

/-- **`PartialResponse.finish` of a response in one chunk** is the response with its messages in
normal form. -/
theorem PartialResponse.finish_ofResponse {r : ChatResponse} (h : r.Streamable) :
    (ofChunks [StreamChunk.ofResponse r]).finish =
      .ok { r with choices := r.choices.map Choice.normal } := by
  have ascending : (r.choices.map StreamChunk.ofChoice).Pairwise fun c d => c.index < d.index :=
    List.pairwise_map.mpr h.ascending
  have gathered : (r.choices.map StreamChunk.ofChoice).foldl absorbChoice [] =
      (r.choices.map StreamChunk.ofChoice).map fun c =>
        (c.index, PartialChoice.absorb c .empty) :=
    ByIndex.gather_of_ascending StreamChoice.index PartialChoice.empty PartialChoice.absorb
      ascending
  have each : ∀ c ∈ r.choices,
      (PartialChoice.absorb (StreamChunk.ofChoice c) .empty).finish c.index = .ok c.normal := by
    intro c mem
    have step : (PartialChoice.absorb (StreamChunk.ofChoice c) .empty).finish c.index =
        (PartialMessage.absorb (StreamChunk.ofChoice c).delta .empty).finish >>= fun m =>
          .ok ⟨c.index, m, c.finishReason.or none, none⟩ := rfl
    rw [step, PartialMessage.finish_ofChoice h mem, Option.or_none]
    rfl
  rw [List.map_map] at gathered
  have choices : (r.choices.map ((fun c => (c.index, PartialChoice.absorb c .empty)) ∘
      StreamChunk.ofChoice)).mapM (fun p => p.2.finish p.1) =
        .ok (r.choices.map Choice.normal) := by
    rw [List.mapM_map]
    exact Except.mapM_eq_ok_map each
  have answered : r.choices.isEmpty = false := by simpa using h.answered
  simp only [ofChunks, List.foldl_cons, List.foldl_nil, absorb, StreamChunk.ofResponse, empty,
    gathered, finish, List.isEmpty_map, answered, lastNonempty_empty, Option.or_none, choices]
  rfl

/-! ## Extraction -/

namespace ResponseFormat

variable {f : ResponseFormat} {m m' : Message}

/-- An answer that is added to alike messages leaves them alike. -/
theorem alike_answered (h : m.Alike m') (call : ToolCall) (rest : List ToolCall) :
    (answered m call rest).Alike (answered m' call rest) := by
  refine ⟨h.role, ?_, ?_, rfl⟩
  · have text := h.text
    rw [Message.text, Message.text] at text
    rw [Message.text, Message.text, answered, answered, List.filterMap_append,
      List.filterMap_append, String.join_append, String.join_append, text]
  · have said : ∀ content : List ContentPart,
        (content ++ [ContentPart.text call.argumentText]).filterMap ContentPart.refusal? =
          content.filterMap ContentPart.refusal? := by
      intro content
      rw [List.filterMap_append]
      exact List.append_nil _
    have refusal := h.refusal
    rw [Message.refusal, Message.refusal] at refusal
    rw [Message.refusal, Message.refusal, answered, answered, said, said]
    exact refusal

/-- **`extract` treats messages alike that read alike**: it comes to the same, and leaves messages
that read alike. -/
theorem extract_alike (h : m.Alike m') :
    (f.extract m).2 = (f.extract m').2 ∧ (f.extract m).1.Alike (f.extract m').1 := by
  have calling : m.hasToolCalls = m'.hasToolCalls := by
    rw [Message.hasToolCalls, Message.hasToolCalls, h.toolCalls]
  have fromText : ∀ find, f.extractFromText find m = f.extractFromText find m' := by
    intro find
    rw [extractFromText, extractFromText, calling, h.text]
  rw [extract, extract]
  cases f.mode with
  | native => exact ⟨fromText _, h⟩
  | prompted => exact ⟨fromText _, h⟩
  | tool =>
    simp only [extractFromTool, h.toolCalls]
    split
    · exact ⟨rfl, h⟩
    · split
      · exact ⟨rfl, h⟩
      · split
        · exact ⟨rfl, h⟩
        · split
          · exact ⟨rfl, h⟩
          · exact ⟨rfl, alike_answered h _ _⟩

end ResponseFormat

/-- Whether two choices are the same but for how the contents of their messages are cut into
parts. -/
structure Choice.Alike (c d : Choice) : Prop where
  /-- The same index. -/
  index : c.index = d.index
  /-- Messages that read alike. -/
  message : c.message.Alike d.message
  /-- The same finish reason. -/
  finishReason : c.finishReason = d.finishReason
  /-- The same structured content. -/
  structuredContent : c.structuredContent = d.structuredContent

/-- Whether two responses are the same but for how the contents of their messages are cut into
parts. -/
structure ChatResponse.Alike (r s : ChatResponse) : Prop where
  /-- The same identifier. -/
  id : r.id = s.id
  /-- The same model. -/
  model : r.model = s.model
  /-- Choices that are alike, in the same order. -/
  choices : List.Forall₂ Choice.Alike r.choices s.choices
  /-- The same usage. -/
  usage : r.usage = s.usage

namespace Client

variable {σ : Type}

/-- Whether two outcomes make no difference to the caller: responses that are alike, or the same
failure of extraction. -/
inductive Agree : Except Error ChatResponse → Except Error ChatResponse → Prop where
  /-- Both succeed. -/
  | accepted {r s : ChatResponse} (alike : r.Alike s) : Agree (.ok r) (.ok s)
  /-- Extraction fails for both in the same way. -/
  | rejected (e : OutputError) : Agree (.error (.output e)) (.error (.output e))

/-- `extractChoices` goes through alike choices alike. -/
theorem extractChoices_alike (f : ResponseFormat) {cs ds : List Choice}
    (h : List.Forall₂ Choice.Alike cs ds) :
    (∃ cs' ds', extractChoices f cs = .ok cs' ∧ extractChoices f ds = .ok ds' ∧
      List.Forall₂ Choice.Alike cs' ds') ∨
    ∃ e, extractChoices f cs = .error e ∧ extractChoices f ds = .error e := by
  induction h with
  | nil => exact .inl ⟨[], [], rfl, rfl, .nil⟩
  | @cons c d cs ds alike _ ih =>
    obtain ⟨outcome, message⟩ := ResponseFormat.extract_alike (f := f) alike.message
    rw [extractChoices, extractChoices]
    generalize f.extract c.message = x at outcome message
    generalize f.extract d.message = y at outcome message
    obtain ⟨m, content⟩ := x
    obtain ⟨m', content'⟩ := y
    obtain rfl : content = content' := outcome
    cases content with
    | error e => exact .inr ⟨e, rfl, rfl⟩
    | ok content =>
      rcases ih with ⟨cs', ds', one, other, rest⟩ | ⟨e, one, other⟩
      · simp only [one, other]
        exact .inl ⟨_, _, rfl, rfl, .cons ⟨alike.index, message, alike.finishReason, rfl⟩ rest⟩
      · simp only [one, other]
        exact .inr ⟨e, rfl, rfl⟩

/-- `extractInto` treats alike responses alike, with or without a format. -/
theorem agree_extractInto (format : Option ResponseFormat) {r s : ChatResponse} (h : r.Alike s) :
    Agree (extractInto format r) (extractInto format s) := by
  cases format with
  | none => exact .accepted h
  | some f =>
    rw [extractInto, extractInto]
    rcases extractChoices_alike f h.choices with ⟨cs, ds, one, other, rest⟩ | ⟨e, one, other⟩
    · simp only [one, other]
      exact .accepted ⟨h.id, h.model, rest, h.usage⟩
    · simp only [one, other]
      exact .rejected e

/-- **Waiting for a response and reading it as a stream make no difference** to the caller of a
provider that streams whole responses: the responses are alike, or extraction fails in the same
way. -/
theorem chatStream_agrees {p : Provider σ}
    (standard : p.stream = (Provider.ofComplete p.name p.complete).stream) (request : ChatRequest)
    (world : σ) {r : ChatResponse} (answer : (p.complete request.shaped world).1 = .ok r)
    (streamable : r.Streamable) :
    Agree (chat p request world).1 (chatStream p request world).1.2 := by
  have waited : (chat p request world).1 = extractInto request.responseFormat r := by
    rw [chat]
    simp only [answer, receive]
  have streamed : (chatStream p request world).1.2 = extractInto request.responseFormat
      { r with choices := r.choices.map Choice.normal } := by
    have items : (p.stream request.shaped world).1 = .ok [.ok (.ofResponse r)] := by
      rw [standard]
      simp only [Provider.ofComplete, answer, Provider.streamOf, Except.map]
    rw [chatStream]
    generalize p.stream request.shaped world = x at items
    obtain ⟨items', world'⟩ := x
    obtain rfl : items' = _ := items
    simp only [assemble, delivered, PartialResponse.finish_ofResponse streamable]
  rw [waited, streamed]
  refine agree_extractInto request.responseFormat ⟨rfl, rfl, ?_, rfl⟩
  rw [List.forall₂_map_right_iff, List.forall₂_same]
  intro c mem
  exact ⟨rfl, c.message.alike_normal, rfl, streamable.unset c mem⟩

/-- A response of two choices: one answers through the output tool and says more in several parts,
the other asks for a tool. -/
def twoChoices : ChatResponse where
  id := "r"
  model := "m"
  choices :=
    [⟨0, ⟨.assistant, [.text "so ", .imageUrl "u" none, .refusal "no", .text "on", .refusal ""],
        [.new "a" "_output" [("n", .arr [.num (.int (.ofUInt32 7))]), ("s", .str "\"")]], none⟩,
        some "stop", none⟩,
      ⟨2, ⟨.assistant, [], [.new "b" "f" [], .new "c" "g" [("x", .null)]], none⟩, none, none⟩]
  usage := some (.new 1 2)

/-- A request for an object, to be answered through the output tool. -/
def wantsObject : ChatRequest :=
  { ChatRequest.new "m" [.user "hi"] with
    responseFormat := some ⟨.tool, "", "", .compile (.obj [("type", .str "object")])⟩ }

/-- A caller that asks for an object gets the same of both ways. -/
theorem chatStream_agrees_twoChoices :
    let p : Provider Unit := .ofComplete "p" fun _ world => (.ok twoChoices, world)
    twoChoices.Streamable ∧ (chat p wantsObject ()).1.isOk = true ∧
      Agree (chat p wantsObject ()).1 (chatStream p wantsObject ()).1.2 := by
  intro p
  have streamable : twoChoices.Streamable := by
    refine ⟨List.cons_ne_nil _ _, by decide, ?_, ?_, ?_, ?_⟩
    all_goals simp only [twoChoices, List.forall_mem_cons]
    · exact ⟨trivial, trivial, nofun⟩
    · refine ⟨⟨.obj ?_, nofun⟩, ⟨.obj nofun, .obj ?_, nofun⟩, nofun⟩
      · simp only [ToolCall.new, ToolCall.arguments, List.forall_mem_cons]
        exact ⟨.arr (List.forall_mem_singleton.mpr (.int _)), .str _, nofun⟩
      · exact List.forall_mem_singleton.mpr .null
    · exact ⟨⟨rfl, nofun⟩, ⟨rfl, rfl, nofun⟩, nofun⟩
    · exact ⟨by decide, by decide, nofun⟩
  exact ⟨streamable, by decide +kernel, chatStream_agrees rfl wantsObject () rfl streamable⟩

end Client

end Colloquy
