import Colloquy.Proofs.Chat.Assembly
import Colloquy.Proofs.Except
import Colloquy.Wire.Chunk
import Mathlib.Data.List.Basic

/-! # Streamed and complete responses

When some chunks are a fragmentation of a complete response, `Reply.FragmentedBy`: the pieces of
each text make up that text, every call is carried by fragments at its position, and of other fields
the last value is the response's.  The order in which fragments of different choices and calls come
is open.  The main statement is `Reply.FragmentedBy.assembly_agrees`: assembling the chunks agrees
with decoding the response, in the result and in the call that is blamed for a failure. -/

namespace Colloquy.Wire

/-! ## Fragmentation -/

/-- Whether fragments of a call, of which there have to be some, make up the call. -/
structure CallEntry.FragmentedBy (call : CallEntry) (fragments : List CallFragment) : Prop where
  /-- There are fragments. -/
  carried : fragments ≠ []
  /-- The last identifier that is not empty is the call's. -/
  id : lastText (fragments.map fun f => f.id.getD "") = call.id
  /-- The last name that is not empty is the call's. -/
  name : lastText (fragments.map fun f => (f.function.bind (·.name)).getD "") = call.function.name
  /-- The pieces of the argument text make it up. -/
  arguments : String.join (fragments.map fun f => (f.function.bind (·.arguments)).getD "") =
    call.function.arguments

/-- The calls of a choice. -/
def ReplyChoice.calls (choice : ReplyChoice) : List CallEntry := choice.message.toolCalls.getD []

/-- The fragments of calls in some shares, in their order. -/
def callFragments (shares : List ChoiceFragment) : List CallFragment :=
  shares.flatMap fun s => s.delta.toolCalls.getD []

/-- Whether shares make up a choice. -/
structure ReplyChoice.FragmentedBy (choice : ReplyChoice) (shares : List ChoiceFragment) :
    Prop where
  /-- The pieces of the text make it up. -/
  content : String.join (shares.map fun s => s.delta.content.getD "") =
    choice.message.content.getD ""
  /-- The pieces of the refusal make it up. -/
  refusal : String.join (shares.map fun s => s.delta.refusal.getD "") =
    choice.message.refusal.getD ""
  /-- Each call is made up of the fragments at its position. -/
  calls : ∀ (i : Nat) (call : CallEntry), choice.calls[i]? = some call →
    call.FragmentedBy ((callFragments shares).filter fun f => f.index.toNat = i)
  /-- There are fragments at no other position. -/
  nothingElse : ∀ f ∈ callFragments shares, f.index.toNat < choice.calls.length
  /-- There is no fragment in the form from before there were tools. -/
  current : ∀ s ∈ shares, s.delta.functionCall = none
  /-- No role but the model's is given. -/
  role : ∀ s ∈ shares, ∀ role, s.delta.role = some role → role = "assistant"
  /-- The last finish reason is the choice's. -/
  finishReason : (shares.filterMap ChoiceFragment.finishReason).getLast? = choice.finishReason

/-- The shares of a choice in some chunks, in their order. -/
def sharesOf (index : UInt32) (chunks : List Chunk) : List ChoiceFragment :=
  (chunks.flatMap Chunk.choices).filter fun s => s.index = index

/-- Whether chunks make up a response. -/
structure Reply.FragmentedBy (r : Reply) (chunks : List Chunk) : Prop where
  /-- The last identifier that is not empty is the response's. -/
  id : lastText (chunks.map Chunk.id) = r.id
  /-- The last model that is not empty is the response's. -/
  model : lastText (chunks.map Chunk.model) = r.model
  /-- The last usage is the response's. -/
  usage : (chunks.filterMap Chunk.usage).getLast? = r.usage
  /-- Exactly the choices of the response are mentioned. -/
  mentioned : ∀ index, sharesOf index chunks ≠ [] ↔ index ∈ r.choices.map ReplyChoice.index
  /-- Each choice is made up of its shares. -/
  choices : ∀ choice ∈ r.choices, choice.FragmentedBy (sharesOf choice.index chunks)

/-- A response that can be put together again: it has choices in the order of their indices, and
none with an empty refusal. -/
structure Reply.Orderly (r : Reply) : Prop where
  /-- There are choices. -/
  answered : r.choices ≠ []
  /-- Their indices ascend. -/
  ascending : r.choices.Pairwise fun c d => c.index < d.index
  /-- Refusals are not empty. -/
  refusal : ∀ choice ∈ r.choices, choice.message.refusal ≠ some ""

/-- Whether two failures blame a call for its arguments: one by its identifier, the other by its
position. -/
def CallEntry.Blamed (call : CallEntry) (position : UInt32) (e : ProviderError)
    (e' : StreamError) : Prop :=
  ∃ reason shown, argumentsOf call.function.arguments = .error reason ∧
    e = misunderstood s!"invalid arguments for tool call {call.id}: {reason}" ∧
    e' = .invalidToolArguments position shown

/-- Whether two failures blame the first call of a choice that has to be blamed. -/
def ReplyChoice.Blamed (choice : ReplyChoice) (e : ProviderError) (e' : StreamError) : Prop :=
  ∃ earlier call later, ∃ position : UInt32, choice.calls = earlier ++ call :: later ∧
    position.toNat = earlier.length ∧ (∀ c ∈ earlier, ∃ x, CallEntry.toCall c = .ok x) ∧
    call.Blamed position e e'

/-- Whether two failures blame the first call of a response that has to be blamed. -/
def Reply.Blamed (r : Reply) (e : ProviderError) (e' : StreamError) : Prop :=
  ∃ earlier choice later, r.choices = earlier ++ choice :: later ∧
    (∀ c ∈ earlier, ∃ x, ReplyChoice.toChoice c = .ok x) ∧ choice.Blamed e e'

/-! ## Calls -/

/-- What is known of a call once all is. -/
def CallEntry.toPartial (call : CallEntry) : PartialCall :=
  ⟨call.id, call.function.name, call.function.arguments⟩

/-- The fragments of a call amount to the call. -/
theorem CallEntry.FragmentedBy.ofFragments {call : CallEntry} {fragments : List CallFragment}
    (h : call.FragmentedBy fragments) :
    PartialCall.ofFragments (fragments.map CallFragment.toDelta) = call.toPartial := by
  rw [PartialCall.ofFragments, List.map_map, List.map_map, List.map_map, CallEntry.toPartial,
    ← h.id, ← h.name, ← h.arguments]
  rfl

/-- **`argumentsOf` and `decodeArguments` agree**, so it does not matter whether arguments were
streamed. -/
theorem argumentsOf_agree (position : UInt32) (text : String) :
    Except.Agree (fun _ e' => ∃ shown, e' = .invalidToolArguments position shown)
      (argumentsOf text) (PartialCall.decodeArguments position text) := by
  rw [argumentsOf, PartialCall.decodeArguments]
  by_cases blank : text.toList.all Text.isBlank = true
  · rw [if_pos blank, if_pos blank]
    exact .ok []
  · rw [if_neg blank, if_neg blank]
    cases Json.ofText text with
    | error e => exact .error ⟨_, rfl⟩
    | ok v =>
      cases v with
      | obj fields => exact .ok fields
      | _ => exact .error ⟨_, rfl⟩

/-- A call is decoded alike, whether it was streamed or not. -/
theorem CallEntry.toCall_agree (call : CallEntry) (position : UInt32) :
    Except.Agree (call.Blamed position) call.toCall (call.toPartial.finish position) := by
  have decoded := argumentsOf_agree position call.function.arguments
  rw [CallEntry.toCall, PartialCall.finish, CallEntry.toPartial]
  generalize given : argumentsOf call.function.arguments = x at decoded
  generalize PartialCall.decodeArguments position call.function.arguments = y at decoded
  cases decoded with
  | ok arguments => exact .ok _
  | error related =>
    obtain ⟨shown, rfl⟩ := related
    exact .error ⟨_, shown, given, rfl, rfl⟩

/-- What is known of the message of a choice after some shares. -/
def messageOf (shares : List ChoiceFragment) : PartialMessage :=
  .ofDeltas (shares.map fun s => s.delta.toDelta)

/-- What is known of a choice after some shares. -/
theorem ofShares_toChoice (shares : List ChoiceFragment) :
    PartialChoice.ofShares (shares.map ChoiceFragment.toChoice) =
      ⟨messageOf shares, (shares.filterMap ChoiceFragment.finishReason).getLast?⟩ := by
  rw [PartialChoice.ofShares, List.map_map, List.filterMap_map]
  rfl

namespace ReplyChoice.FragmentedBy

variable {choice : ReplyChoice} {shares : List ChoiceFragment}

/-- There are no more calls than positions. -/
theorem length_calls_le (h : choice.FragmentedBy shares) :
    choice.calls.length ≤ UInt32.size := by
  by_contra large
  have there := List.getElem?_eq_getElem (Nat.lt_of_not_le large)
  obtain ⟨f, hf⟩ := List.exists_mem_of_ne_nil _ (h.calls _ _ there).carried
  have position : f.index.toNat = UInt32.size := by simpa using (List.mem_filter.mp hf).2
  exact Nat.lt_irrefl _ (position ▸ f.index.toNat_lt)

/-- What the shares of a choice say of its calls. -/
theorem toolCalls_toDelta (h : choice.FragmentedBy shares) :
    (shares.map fun s => s.delta.toDelta).flatMap MessageDelta.toolCalls =
      (callFragments shares).map CallFragment.toDelta := by
  rw [List.flatMap_map, callFragments, List.map_flatMap]
  refine List.flatMap_congr fun s hs => ?_
  rw [MessageFragment.toDelta, h.current s hs]
  exact List.append_nil _

/-- **The calls of a choice are put together again**, each at its position. -/
theorem toolCalls (h : choice.FragmentedBy shares) :
    (messageOf shares).toolCalls = ByIndex.ofList CallEntry.toPartial choice.calls := by
  -- Both lists ascend, so it is enough to compare them position by position.
  refine ByIndex.ext (ByIndex.ascending_gather ..)
    (ByIndex.ascending_ofList _ h.length_calls_le) fun position => ?_
  have mine : ((callFragments shares).map CallFragment.toDelta).filter
      (fun d => d.index = position) =
        ((callFragments shares).filter fun f => f.index.toNat = position.toNat).map
          CallFragment.toDelta := by
    rw [List.filter_map]
    exact congrArg _ (List.filter_congr fun f _ => decide_eq_decide.mpr UInt32.toNat_inj.symm)
  rw [messageOf, PartialMessage.find?_toolCalls, h.toolCalls_toDelta, mine,
    ByIndex.find?_ofList _ h.length_calls_le]
  cases there : choice.calls[position.toNat]? with
  | some call =>
    have whole := h.calls position.toNat call there
    rw [if_neg (by simpa using whole.carried), whole.ofFragments, Option.map_some]
  | none =>
    -- Beyond the calls there are no fragments.
    have beyond := List.getElem?_eq_none_iff.mp there
    have silent : (callFragments shares).filter (fun f => f.index.toNat = position.toNat) = [] := by
      refine List.filter_eq_nil_iff.mpr fun f hf => ?_
      have within := h.nothingElse f hf
      simp only [decide_eq_true_eq]
      omega
    rw [silent, List.map_nil, if_pos rfl, Option.map_none]

/-! ## Choices and responses -/

/-- The role is the model's, given or not. -/
theorem role_eq (h : choice.FragmentedBy shares) :
    (messageOf shares).role.getD .assistant = .assistant := by
  rw [messageOf, PartialMessage.ofDeltas, List.filterMap_map]
  cases last : (shares.filterMap (MessageDelta.role ∘ fun s => s.delta.toDelta)).getLast? with
  | none => rfl
  | some role =>
    obtain ⟨s, hs, given⟩ := List.mem_filterMap.mp (List.mem_of_getLast? last)
    obtain ⟨name, named, known⟩ := Option.bind_eq_some_iff.mp given
    rw [h.role s hs name named] at known
    exact (Option.some.inj known).symm

/-- The parts are the text and the refusal, each if there is any. -/
theorem parts_eq (h : choice.FragmentedBy shares) (refusal : choice.message.refusal ≠ some "") :
    (messageOf shares).parts =
      (Message.assistant (choice.message.content.getD "")).content ++
        (choice.message.refusal.map ContentPart.refusal).toList := by
  have content : (messageOf shares).content = choice.message.content.getD "" := by
    simp only [messageOf, PartialMessage.ofDeltas, List.map_map, ← h.content]
    rfl
  have refused : (messageOf shares).refusal = choice.message.refusal.getD "" := by
    simp only [messageOf, PartialMessage.ofDeltas, List.map_map, ← h.refusal]
    rfl
  rw [PartialMessage.parts, content, refused, Message.assistant, Message.withText]
  cases given : choice.message.refusal with
  | none => rfl
  | some r =>
    have worded : r ≠ "" := fun empty => refusal (by rw [given, empty])
    rw [Option.getD_some, if_neg worded]
    rfl

/-- **A choice is decoded alike**, whether it was streamed or not. -/
theorem agree (h : choice.FragmentedBy shares) (refusal : choice.message.refusal ≠ some "") :
    Except.Agree choice.Blamed choice.toChoice
      ((PartialChoice.ofShares (shares.map ChoiceFragment.toChoice)).finish choice.index) := by
  have calls : Except.Agree choice.Blamed (choice.calls.mapM CallEntry.toCall)
      ((messageOf shares).toolCalls.mapM fun c => c.2.finish c.1) := by
    rw [h.toolCalls]
    exact ByIndex.agree_mapM_ofList h.length_calls_le CallEntry.toCall_agree
  have message : Except.Agree choice.Blamed choice.message.toMessage (messageOf shares).finish := by
    refine calls.bind fun calls => ?_
    rw [h.role_eq, h.parts_eq refusal]
    exact .ok _
  rw [ofShares_toChoice, h.finishReason]
  exact message.bind fun message => .ok _

end ReplyChoice.FragmentedBy

/-- What chunks say of choices is what their fragments say of them. -/
theorem flatMap_toChunk (chunks : List Chunk) :
    (chunks.map Chunk.toChunk).flatMap StreamChunk.choices =
      (chunks.flatMap Chunk.choices).map ChoiceFragment.toChoice := by
  rw [List.flatMap_map, List.map_flatMap]
  rfl

namespace Reply.FragmentedBy

variable {r : Reply} {chunks : List Chunk}

/-- **The choices of a response are put together again**, in the order of their indices. -/
theorem choices_eq (h : r.FragmentedBy chunks) (orderly : r.Orderly) :
    (PartialResponse.ofChunks (chunks.map Chunk.toChunk)).choices =
      r.choices.map fun c =>
        (c.index, .ofShares ((sharesOf c.index chunks).map ChoiceFragment.toChoice)) := by
  have ascending : ByIndex.Ascending (r.choices.map fun c =>
      (c.index, PartialChoice.ofShares
        ((sharesOf c.index chunks).map ChoiceFragment.toChoice))) := by
    rw [ByIndex.Ascending, List.pairwise_map]
    exact orderly.ascending
  refine ByIndex.ext (PartialResponse.ascending_choices _) ascending fun index => ?_
  have mine : ((chunks.map Chunk.toChunk).flatMap StreamChunk.choices).filter
      (fun c => c.index = index) = (sharesOf index chunks).map ChoiceFragment.toChoice := by
    rw [flatMap_toChunk, List.filter_map]
    rfl
  rw [PartialResponse.find?_choices, mine]
  by_cases silent : sharesOf index chunks = []
  · -- A choice of the response would have been mentioned.
    rw [silent, List.map_nil, if_pos rfl, eq_comm, Option.eq_none_iff_forall_ne_some]
    intro p found
    obtain ⟨c, hc, same⟩ := List.mem_map.mp (ByIndex.mem_of_find? found)
    have its : c.index = index := congrArg Prod.fst same
    exact (h.mentioned index).mpr (List.mem_map.mpr ⟨c, hc, its⟩) silent
  · obtain ⟨c, hc, rfl⟩ := List.mem_map.mp ((h.mentioned index).mp silent)
    rw [if_neg (by simpa using silent), eq_comm]
    exact (ByIndex.find?_eq_some ascending).mpr (List.mem_map.mpr ⟨c, hc, rfl⟩)

/-- **Assembling the chunks of a response agrees with decoding the response**: both come to the same
response, or both fail and blame the first call whose arguments are no JSON object. -/
theorem assembly_agrees (h : r.FragmentedBy chunks) (orderly : r.Orderly) :
    Except.Agree r.Blamed r.toResponse
      (PartialResponse.ofChunks (chunks.map Chunk.toChunk)).finish := by
  have choices : Except.Agree r.Blamed (r.choices.mapM ReplyChoice.toChoice)
      ((PartialResponse.ofChunks (chunks.map Chunk.toChunk)).choices.mapM
        fun c => c.2.finish c.1) := by
    rw [h.choices_eq orderly, List.mapM_map]
    exact Except.Agree.mapM fun c hc => (h.choices c hc).agree (orderly.refusal c hc)
  -- The response has choices, so assembly does not fail for want of them.
  have answered :
      (PartialResponse.ofChunks (chunks.map Chunk.toChunk)).choices.isEmpty = false := by
    rw [h.choices_eq orderly, List.isEmpty_map]
    simpa using orderly.answered
  rw [Reply.toResponse, PartialResponse.finish, answered]
  refine choices.bind fun choices => ?_
  rw [PartialResponse.ofChunks_eq, List.map_map, List.map_map, List.filterMap_map, ← h.id,
    ← h.model, ← h.usage]
  exact .ok _

end Reply.FragmentedBy

/-- A response that asks for two calls, the second without arguments. -/
def twoCalls : Reply where
  id := "r"
  model := "m"
  choices :=
    [⟨0, ⟨none, none, some [⟨"a", "function", ⟨"f", "\x7b\x7d"⟩⟩, ⟨"b", "function", ⟨"g", ""⟩⟩]⟩,
      some "tool_calls"⟩]
  usage := none

/-- Chunks of it, in which the second call comes first and the first one comes in two pieces. -/
def twoCallsChunks : List Chunk :=
  [⟨"r", "m", [⟨0, ⟨some "assistant", none, none, some [⟨1, some "b", some ⟨some "g", none⟩⟩,
      ⟨0, some "a", some ⟨some "f", some "\x7b"⟩⟩], none⟩, none⟩], none, none⟩,
    ⟨"", "", [⟨0, ⟨none, none, none, some [⟨0, none, some ⟨none, some "\x7d"⟩⟩], none⟩,
      some "tool_calls"⟩], none, none⟩]

/-- The two calls are put together again. -/
theorem assembly_agrees_twoCalls :
    twoCalls.FragmentedBy twoCallsChunks ∧ twoCalls.Orderly ∧ twoCalls.toResponse.isOk = true ∧
      Except.Agree twoCalls.Blamed twoCalls.toResponse
        (PartialResponse.ofChunks (twoCallsChunks.map Chunk.toChunk)).finish := by
  have whole : twoCalls.FragmentedBy twoCallsChunks := by
    refine ⟨rfl, rfl, rfl, fun index => ?_, List.forall_mem_singleton.mpr ?_⟩
    · by_cases first : index = 0
      · subst first
        exact iff_of_true (by decide) (by decide)
      · have other : ¬ 0 = index := Ne.symm first
        simp [twoCalls, twoCallsChunks, sharesOf, first, other]
    · refine ⟨rfl, rfl, fun i call there => ?_, by decide, by decide, by decide, rfl⟩
      match i, there with
      | 0, there =>
        obtain rfl := Option.some.inj there
        exact ⟨by decide, rfl, rfl, rfl⟩
      | 1, there =>
        obtain rfl := Option.some.inj there
        exact ⟨by decide, rfl, rfl, rfl⟩
  have orderly : twoCalls.Orderly := ⟨by decide, by decide, by decide⟩
  exact ⟨whole, orderly, by decide +kernel, whole.assembly_agrees orderly⟩

end Colloquy.Wire
