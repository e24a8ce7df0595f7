import Colloquy.Proofs.Chat.Assembly

/-! # What was streamed, and how

Two sequences of chunks stream the same, `SameStreamed`, if they mention the same choices and calls
and the fragments of each come to the same, however they are cut and in whatever order those of
different choices and calls come.  `Reassembled` says what becomes of chunks in terms of the
fragments of each choice and each call alone.  The main statement is
`PartialResponse.finish_reassembled`. -/

namespace Colloquy

/-! ## What is streamed -/

/-- The shares of a choice in some chunks, in their order. -/
def StreamChunk.sharesOf (index : UInt32) (chunks : List StreamChunk) : List StreamChoice :=
  (chunks.flatMap StreamChunk.choices).filter fun c => c.index = index

/-- The fragments of a call in some shares of a choice, in their order. -/
def StreamChoice.fragmentsOf (index : UInt32) (shares : List StreamChoice) : List ToolCallDelta :=
  (shares.flatMap fun c => c.delta.toolCalls).filter fun d => d.index = index

/-- The argument text in the fragments of a call. -/
def ToolCallDelta.argumentsOf (fragments : List ToolCallDelta) : String :=
  String.join (fragments.map fun d => d.arguments.getD "")

/-- The text in the shares of a choice. -/
def StreamChoice.textOf (shares : List StreamChoice) : String :=
  String.join (shares.map fun c => c.delta.content.getD "")

/-- The refusal in the shares of a choice. -/
def StreamChoice.refusalOf (shares : List StreamChoice) : String :=
  String.join (shares.map fun c => c.delta.refusal.getD "")

/-- The last role in the shares of a choice. -/
def StreamChoice.roleOf (shares : List StreamChoice) : Option Role :=
  (shares.filterMap fun c => c.delta.role).getLast?

/-- The last finish reason in the shares of a choice. -/
def StreamChoice.finishReasonOf (shares : List StreamChoice) : Option String :=
  (shares.filterMap StreamChoice.finishReason).getLast?

open StreamChunk (sharesOf)
open StreamChoice (fragmentsOf textOf refusalOf roleOf finishReasonOf)
open ToolCallDelta (argumentsOf)

/-- Whether fragments of a call come to the same as others. -/
structure ToolCallDelta.SameStreamed (ds es : List ToolCallDelta) : Prop where
  /-- Both mention the call, or neither does. -/
  mentioned : ds = [] ↔ es = []
  /-- The same identifier comes last of those that are not empty. -/
  id : lastText (ds.map fun d => d.id.getD "") = lastText (es.map fun d => d.id.getD "")
  /-- The same name comes last of those that are not empty. -/
  name : lastText (ds.map fun d => d.name.getD "") = lastText (es.map fun d => d.name.getD "")
  /-- The same argument text. -/
  arguments : argumentsOf ds = argumentsOf es

/-- Whether shares of a choice come to the same as others. -/
structure StreamChoice.SameStreamed (cs ds : List StreamChoice) : Prop where
  /-- Both mention the choice, or neither does. -/
  mentioned : cs = [] ↔ ds = []
  /-- The same text. -/
  text : textOf cs = textOf ds
  /-- The same refusal. -/
  refusal : refusalOf cs = refusalOf ds
  /-- The same role comes last. -/
  role : roleOf cs = roleOf ds
  /-- The same finish reason comes last. -/
  finishReason : finishReasonOf cs = finishReasonOf ds
  /-- The fragments of each call come to the same. -/
  calls : ∀ index, ToolCallDelta.SameStreamed (fragmentsOf index cs) (fragmentsOf index ds)

/-- Whether chunks come to the same as others. -/
structure StreamChunk.SameStreamed (cs ds : List StreamChunk) : Prop where
  /-- The same identifier comes last of those that are not empty. -/
  id : lastText (cs.map StreamChunk.id) = lastText (ds.map StreamChunk.id)
  /-- The same model comes last of those that are not empty. -/
  model : lastText (cs.map StreamChunk.model) = lastText (ds.map StreamChunk.model)
  /-- The same usage comes last. -/
  usage : (cs.filterMap StreamChunk.usage).getLast? = (ds.filterMap StreamChunk.usage).getLast?
  /-- The shares of each choice come to the same. -/
  choices : ∀ index, StreamChoice.SameStreamed (sharesOf index cs) (sharesOf index ds)

/-- Fragments of a call come to the same as themselves. -/
theorem ToolCallDelta.SameStreamed.refl (ds : List ToolCallDelta) : SameStreamed ds ds :=
  ⟨Iff.rfl, rfl, rfl, rfl⟩

/-- Shares of a choice come to the same as themselves. -/
theorem StreamChoice.SameStreamed.refl (cs : List StreamChoice) : SameStreamed cs cs :=
  ⟨Iff.rfl, rfl, rfl, rfl, rfl, fun _ => .refl _⟩

/-! ## Arguments -/

/-- Whether a text stands for arguments. -/
inductive ToolCall.Decodes (text : String) : List (String × Json) → Prop where
  /-- Blank text stands for none. -/
  | blank (blank : text.toList.all Text.isBlank = true) : Decodes text []
  /-- Other text is a JSON object. -/
  | object {fields : List (String × Json)} (visible : text.toList.all Text.isBlank = false)
    (read : Json.ofText text = .ok (.obj fields)) : Decodes text fields

/-- Whether a text stands for no arguments, for a reason. -/
inductive ToolCall.Undecodable (text : String) : String → Prop where
  /-- It is another JSON value. -/
  | notObject {v : Json} (visible : text.toList.all Text.isBlank = false)
    (read : Json.ofText text = .ok v) (other : ∀ fields, v ≠ .obj fields) :
    Undecodable text ("expected a JSON object, got " ++ v.compact)
  /-- It is not JSON. -/
  | malformed {e : Json.TextError} (visible : text.toList.all Text.isBlank = false)
    (unread : Json.ofText text = .error e) : Undecodable text e.message

namespace ToolCall

variable {text reason : String}

/-- A text that stands for arguments does not fail to. -/
theorem Decodes.not_undecodable {arguments : List (String × Json)} (h : Decodes text arguments) :
    ¬ Undecodable text reason := by
  intro bad
  cases h with
  | blank blank =>
    cases bad with
    | notObject visible => exact absurd (blank.symm.trans visible) nofun
    | malformed visible => exact absurd (blank.symm.trans visible) nofun
  | object _ read =>
    cases bad with
    | notObject _ other no => exact no _ (Except.ok.inj (other.symm.trans read))
    | malformed _ unread => exact absurd (unread.symm.trans read) nofun

/-- There is one reason at most. -/
theorem Undecodable.unique {reason' : String} (h : Undecodable text reason)
    (h' : Undecodable text reason') : reason = reason' := by
  cases h with
  | notObject _ read =>
    cases h' with
    | notObject _ read' => rw [Except.ok.inj (read.symm.trans read')]
    | malformed _ unread => exact absurd (read.symm.trans unread) nofun
  | malformed _ unread =>
    cases h' with
    | notObject _ read => exact absurd (read.symm.trans unread) nofun
    | malformed _ unread' => rw [Except.error.inj (unread.symm.trans unread')]

/-- **Every text stands for arguments or does not**, and `decodeArguments` tells which. -/
theorem decodeArguments_cases (index : UInt32) (text : String) :
    (∃ arguments, Decodes text arguments ∧
        PartialCall.decodeArguments index text = .ok arguments) ∨
      ∃ reason, Undecodable text reason ∧
        PartialCall.decodeArguments index text = .error (.invalidToolArguments index reason) := by
  rw [PartialCall.decodeArguments]
  cases visible : text.toList.all Text.isBlank with
  | true => exact .inl ⟨[], .blank visible, rfl⟩
  | false =>
    rw [if_neg Bool.false_ne_true]
    cases read : Json.ofText text with
    | error e => exact .inr ⟨_, .malformed visible read, rfl⟩
    | ok v =>
      cases v with
      | obj fields => exact .inl ⟨fields, .object visible read, rfl⟩
      | _ => exact .inr ⟨_, .notObject visible read nofun, rfl⟩

/-- Whether a call is what its fragments come to. -/
structure MadeOf (fragments : List ToolCallDelta) (call : ToolCall) : Prop where
  /-- The last identifier that is not empty. -/
  id : call.id = lastText (fragments.map fun d => d.id.getD "")
  /-- The last name that is not empty. -/
  name : call.name = lastText (fragments.map fun d => d.name.getD "")
  /-- What the argument text stands for. -/
  arguments : Decodes (argumentsOf fragments) call.arguments

end ToolCall

namespace PartialCall

variable {index : UInt32} {ds : List ToolCallDelta}

/-- `PartialCall.finish` comes to what the fragments do. -/
theorem madeOf_of_finish_eq_ok {call : ToolCall} (h : (ofFragments ds).finish index = .ok call) :
    call.MadeOf ds := by
  obtain ⟨arguments, decoded, made⟩ := Except.bind_eq_ok.mp h
  obtain rfl := Except.ok.inj made
  refine ⟨rfl, rfl, ?_⟩
  rcases ToolCall.decodeArguments_cases index (argumentsOf ds) with
    ⟨arguments', decodes, same⟩ | ⟨reason, -, failed⟩
  · obtain rfl : arguments' = arguments := Except.ok.inj (same.symm.trans decoded)
    exact decodes
  · exact absurd (failed.symm.trans decoded) nofun

/-- **`PartialCall.finish` fails exactly if the argument text stands for nothing.** -/
theorem finish_eq_error {e : StreamError} :
    (ofFragments ds).finish index = .error e ↔
      ∃ reason, ToolCall.Undecodable (argumentsOf ds) reason ∧
        e = .invalidToolArguments index reason := by
  have arguments : (ofFragments ds).arguments = argumentsOf ds := rfl
  rw [finish, arguments]
  rcases ToolCall.decodeArguments_cases index (argumentsOf ds) with
    ⟨_, decodes, decoded⟩ | ⟨reason, undecodable, failed⟩
  · rw [decoded]
    exact ⟨nofun, fun ⟨_, bad, _⟩ => absurd bad decodes.not_undecodable⟩
  · rw [failed]
    constructor
    · intro h
      exact ⟨reason, undecodable, (Except.error.inj h).symm⟩
    · rintro ⟨reason', bad, rfl⟩
      rw [bad.unique undecodable]
      rfl

end PartialCall

/-! ## Choices -/

/-- Whether a choice is what its shares come to. -/
structure Choice.MadeOf (shares : List StreamChoice) (c : Choice) : Prop where
  /-- The last role; it is the model's if there is none. -/
  role : c.message.role = (roleOf shares).getD .assistant
  /-- The text and the refusal, each if there is any. -/
  content : c.message.content = (if textOf shares = "" then [] else [.text (textOf shares)]) ++
    (if refusalOf shares = "" then [] else [.refusal (refusalOf shares)])
  /-- Exactly the calls that were mentioned, each made of its fragments. -/
  calls : ByIndex.InOrder (fun j => fragmentsOf j shares ≠ [])
    (fun j call => call.MadeOf (fragmentsOf j shares)) c.message.toolCalls
  /-- It answers no call. -/
  toolCallId : c.message.toolCallId = none
  /-- The last finish reason. -/
  finishReason : c.finishReason = finishReasonOf shares
  /-- Nothing has been extracted. -/
  structuredContent : c.structuredContent = none

namespace StreamChoice

variable {shares : List StreamChoice} {j k : UInt32} {reason reason' : String}

/-- Whether a call is the first whose argument text stands for nothing, for a reason. -/
structure Blamed (shares : List StreamChoice) (j : UInt32) (reason : String) : Prop where
  /-- Its text stands for nothing. -/
  undecodable : ToolCall.Undecodable (argumentsOf (fragmentsOf j shares)) reason
  /-- There is none before it. -/
  first : ∀ k < j, ∀ reason, ¬ ToolCall.Undecodable (argumentsOf (fragmentsOf k shares)) reason

/-- One call is to blame at most. -/
theorem Blamed.unique (h : Blamed shares j reason) (h' : Blamed shares k reason') :
    j = k ∧ reason = reason' := by
  have same : j = k := by
    by_contra other
    rcases UInt32.lt_or_lt_of_ne other with below | above
    · exact h'.first j below reason h.undecodable
    · exact h.first k above reason' h'.undecodable
  subst same
  exact ⟨rfl, h.undecodable.unique h'.undecodable⟩

/-- A text that was not streamed stands for something. -/
theorem fragmentsOf_ne_nil (h : ToolCall.Undecodable (argumentsOf (fragmentsOf j shares)) reason) :
    fragmentsOf j shares ≠ [] := by
  intro none
  rw [none] at h
  exact (ToolCall.Decodes.blank rfl).not_undecodable h

end StreamChoice

namespace PartialChoice

/-- Of each call that was mentioned stands what its fragments amount to. -/
theorem find?_toolCalls_eq_some (shares : List StreamChoice) (j : UInt32) (p : PartialCall) :
    ByIndex.find? j (ofShares shares).message.toolCalls = some p ↔
      fragmentsOf j shares ≠ [] ∧ PartialCall.ofFragments (fragmentsOf j shares) = p := by
  rw [ofShares, PartialMessage.find?_toolCalls, List.flatMap_map, Option.ite_none_left_eq_some,
    Option.some_inj]
  exact Iff.rfl

/-- What the shares of a choice amount to, field by field. -/
theorem ofShares_eq (shares : List StreamChoice) :
    ofShares shares =
      { message :=
          { role := roleOf shares
            content := textOf shares
            refusal := refusalOf shares
            toolCalls := (ofShares shares).message.toolCalls }
        finishReason := finishReasonOf shares } := by
  rw [ofShares, PartialMessage.ofDeltas, List.filterMap_map, List.map_map, List.map_map]
  rfl

/-- **`PartialChoice.finish` comes to what the shares do**, unless a call is to blame. -/
theorem finish_cases (i : UInt32) (shares : List StreamChoice) :
    (∃ c : Choice, c.index = i ∧ c.MadeOf shares ∧ (ofShares shares).finish i = .ok c ∧
        ∀ j reason, ¬ ToolCall.Undecodable (argumentsOf (fragmentsOf j shares)) reason) ∨
      ∃ j reason, StreamChoice.Blamed shares j reason ∧
        (ofShares shares).finish i = .error (.invalidToolArguments j reason) := by
  have ascending : ByIndex.Ascending (ofShares shares).message.toolCalls :=
    ByIndex.ascending_gather ..
  rw [ofShares_eq, finish, PartialMessage.finish]
  rcases ByIndex.mapM_cases (fun i p => PartialCall.finish i p) ascending
      (find?_toolCalls_eq_some shares) with
    ⟨calls, treated, inOrder⟩ | ⟨j, e, there, fails, fine, treated⟩
  · refine .inl ⟨⟨i, ⟨_, _, calls, none⟩, _, none⟩, rfl, ⟨rfl, rfl, ?_, rfl, rfl, rfl⟩, ?_, ?_⟩
    rotate_left
    · rw [treated]
      rfl
    · intro j reason bad
      obtain ⟨call, -, -, done⟩ :=
        inOrder.exists_of_mentioned (StreamChoice.fragmentsOf_ne_nil bad)
      exact absurd ((PartialCall.finish_eq_error.mpr ⟨reason, bad, rfl⟩).symm.trans done) nofun
    · exact inOrder.imp (fun _ => Iff.rfl) fun j call h => PartialCall.madeOf_of_finish_eq_ok h.2
  · obtain ⟨reason, undecodable, rfl⟩ := PartialCall.finish_eq_error.mp fails
    refine .inr ⟨j, reason, ⟨undecodable, fun k below reason bad => ?_⟩, ?_⟩
    · obtain ⟨call, done⟩ := fine k below (StreamChoice.fragmentsOf_ne_nil bad)
      exact absurd ((PartialCall.finish_eq_error.mpr ⟨reason, bad, rfl⟩).symm.trans done) nofun
    · rw [treated]
      rfl

end PartialChoice

/-! ## Responses -/

/-- Whether a response is what chunks come to. -/
structure ChatResponse.MadeOf (chunks : List StreamChunk) (r : ChatResponse) : Prop where
  /-- The last identifier that is not empty. -/
  id : r.id = lastText (chunks.map StreamChunk.id)
  /-- The last model that is not empty. -/
  model : r.model = lastText (chunks.map StreamChunk.model)
  /-- Exactly the choices that were mentioned, each made of its shares. -/
  choices : ByIndex.InOrder (fun i => sharesOf i chunks ≠ [])
    (fun i c => c.index = i ∧ c.MadeOf (sharesOf i chunks)) r.choices
  /-- The last usage. -/
  usage : r.usage = (chunks.filterMap StreamChunk.usage).getLast?

namespace StreamChunk

variable {chunks : List StreamChunk} {i i' j j' : UInt32} {reason reason' : String}

/-- Whether the argument text of a call of a choice stands for nothing, for a reason. -/
def Undecodable (chunks : List StreamChunk) (i j : UInt32) (reason : String) : Prop :=
  ToolCall.Undecodable (argumentsOf (fragmentsOf j (sharesOf i chunks))) reason

/-- Whether a call is the first one of the first choice with a call whose argument text stands for
nothing, for a reason. -/
structure Blamed (chunks : List StreamChunk) (i j : UInt32) (reason : String) : Prop where
  /-- Its text stands for nothing. -/
  undecodable : Undecodable chunks i j reason
  /-- There is none before it in its choice. -/
  first : ∀ k < j, ∀ reason, ¬ Undecodable chunks i k reason
  /-- There is none in the choices before its own. -/
  firstChoice : ∀ k < i, ∀ j reason, ¬ Undecodable chunks k j reason

/-- One call is to blame at most. -/
theorem Blamed.unique (h : Blamed chunks i j reason) (h' : Blamed chunks i' j' reason') :
    j = j' ∧ reason = reason' := by
  have same : i = i' := by
    by_contra other
    rcases UInt32.lt_or_lt_of_ne other with below | above
    · exact h'.firstChoice i below j reason h.undecodable
    · exact h.firstChoice i' above j' reason' h'.undecodable
  subst same
  exact StreamChoice.Blamed.unique ⟨h.undecodable, h.first⟩ ⟨h'.undecodable, h'.first⟩

/-- The choice of a call was mentioned. -/
theorem Undecodable.mentioned (h : Undecodable chunks i j reason) : sharesOf i chunks ≠ [] := by
  intro silent
  rw [Undecodable, silent] at h
  exact StreamChoice.fragmentsOf_ne_nil h rfl

/-- What becomes of chunks, in terms of what they stream. -/
structure Reassembled (chunks : List StreamChunk) (outcome : Except StreamError ChatResponse) :
    Prop where
  /-- There are no choices if none is mentioned. -/
  noChoices : outcome = .error .noChoices ↔ ∀ i, sharesOf i chunks = []
  /-- The first call of the first choice is blamed whose argument text stands for nothing. -/
  blamed : ∀ j reason, outcome = .error (.invalidToolArguments j reason) ↔
    ∃ i, Blamed chunks i j reason
  /-- There is no other failure. -/
  failed : (∃ e, outcome = .error e) ↔
    (∀ i, sharesOf i chunks = []) ∨ ∃ i j reason, Undecodable chunks i j reason
  /-- A response is made of what is streamed. -/
  made : ∀ r, outcome = .ok r → r.MadeOf chunks

end StreamChunk

namespace PartialResponse

/-- Of each choice that was mentioned stands what its shares amount to. -/
theorem find?_choices_eq_some (chunks : List StreamChunk) (i : UInt32) (p : PartialChoice) :
    ByIndex.find? i (ofChunks chunks).choices = some p ↔
      sharesOf i chunks ≠ [] ∧ PartialChoice.ofShares (sharesOf i chunks) = p := by
  rw [find?_choices, Option.ite_none_left_eq_some, Option.some_inj]
  exact Iff.rfl

/-- Nothing stands if no choice was mentioned. -/
theorem isEmpty_choices (chunks : List StreamChunk) :
    (ofChunks chunks).choices.isEmpty = true ↔ ∀ i, sharesOf i chunks = [] := by
  rw [List.isEmpty_iff]
  constructor
  · intro none i
    by_contra mentioned
    have found := (find?_choices_eq_some chunks i _).mpr ⟨mentioned, rfl⟩
    rw [none] at found
    cases found
  · intro silent
    refine ByIndex.ext (ascending_choices chunks) .nil fun i => ?_
    refine Option.eq_none_iff_forall_ne_some.mpr fun p found => ?_
    exact ((find?_choices_eq_some chunks i p).mp found).1 (silent i)

/-- **`PartialResponse.finish` comes to what the chunks do**, unless they mention no choice or a
call is to blame. -/
theorem finish_cases (chunks : List StreamChunk) :
    ((∀ i, sharesOf i chunks = []) ∧ (ofChunks chunks).finish = .error .noChoices) ∨
      (∃ i j reason, StreamChunk.Blamed chunks i j reason ∧
        (ofChunks chunks).finish = .error (.invalidToolArguments j reason)) ∨
      ∃ r : ChatResponse, r.MadeOf chunks ∧ (ofChunks chunks).finish = .ok r ∧
        (∃ i, sharesOf i chunks ≠ []) ∧
        ∀ i j reason, ¬ StreamChunk.Undecodable chunks i j reason := by
  by_cases silent : ∀ i, sharesOf i chunks = []
  · refine .inl ⟨silent, ?_⟩
    rw [finish, if_pos ((isEmpty_choices chunks).mpr silent)]
  have finished : (ofChunks chunks).finish =
      ((ofChunks chunks).choices.mapM fun c => c.2.finish c.1) >>= fun choices =>
        .ok ⟨(ofChunks chunks).id, (ofChunks chunks).model, choices, (ofChunks chunks).usage⟩ := by
    rw [finish, if_neg (mt (isEmpty_choices chunks).mp silent)]
  right
  -- A choice whose shares are finished has no call that is to blame.
  have good : ∀ {i c}, (PartialChoice.ofShares (sharesOf i chunks)).finish i = .ok c →
      (c.index = i ∧ c.MadeOf (sharesOf i chunks)) ∧
        ∀ j reason, ¬ StreamChunk.Undecodable chunks i j reason := by
    intro i c done
    rcases PartialChoice.finish_cases i (sharesOf i chunks) with
      ⟨c', its, made, done', fine⟩ | ⟨_, _, -, failed⟩
    · obtain rfl : c' = c := Except.ok.inj (done'.symm.trans done)
      exact ⟨⟨its, made⟩, fine⟩
    · exact absurd (failed.symm.trans done) nofun
  rcases ByIndex.mapM_cases (fun i p => PartialChoice.finish i p)
      (ascending_choices chunks) (find?_choices_eq_some chunks) with
    ⟨choices, treated, inOrder⟩ | ⟨i, e, there, fails, fine, treated⟩
  · refine .inr ⟨_, ⟨?_, ?_, ?_, ?_⟩, finished.trans (by rw [treated]; rfl), ?_, ?_⟩
    · rw [ofChunks_eq]
    · rw [ofChunks_eq]
    · exact inOrder.imp (fun _ => Iff.rfl) fun i c h => (good h.2).1
    · rw [ofChunks_eq]
    · exact not_forall.mp silent
    · intro i j reason bad
      obtain ⟨c, -, -, done⟩ := inOrder.exists_of_mentioned bad.mentioned
      exact (good done).2 j reason bad
  · rcases PartialChoice.finish_cases i (sharesOf i chunks) with
      ⟨c, -, -, done, -⟩ | ⟨j, reason, blamed, failed⟩
    · exact absurd (done.symm.trans fails) nofun
    · obtain rfl := Except.error.inj (failed.symm.trans fails)
      refine .inl ⟨i, j, reason, ⟨blamed.undecodable, blamed.first, ?_⟩, ?_⟩
      · intro k below j' reason' bad
        obtain ⟨c, done⟩ := fine k below bad.mentioned
        exact (good done).2 j' reason' bad
      · rw [finished, treated]
        rfl

/-- Chunks that stream the same amount to the same. -/
theorem ofChunks_eq_of_sameStreamed {cs ds : List StreamChunk}
    (h : StreamChunk.SameStreamed cs ds) : ofChunks cs = ofChunks ds := by
  have calls : ∀ i, (PartialChoice.ofShares (sharesOf i cs)).message.toolCalls =
      (PartialChoice.ofShares (sharesOf i ds)).message.toolCalls := by
    intro i
    refine ByIndex.ext (ByIndex.ascending_gather ..) (ByIndex.ascending_gather ..) fun j => ?_
    have same := (h.choices i).calls j
    have fragments : PartialCall.ofFragments (fragmentsOf j (sharesOf i cs)) =
        PartialCall.ofFragments (fragmentsOf j (sharesOf i ds)) := by
      rw [PartialCall.ofFragments, PartialCall.ofFragments, same.id, same.name]
      exact congrArg _ same.arguments
    refine Option.ext fun p => ?_
    rw [PartialChoice.find?_toolCalls_eq_some, PartialChoice.find?_toolCalls_eq_some, ne_eq, ne_eq,
      same.mentioned, fragments]
  have shares : ∀ i, PartialChoice.ofShares (sharesOf i cs) =
      PartialChoice.ofShares (sharesOf i ds) := by
    intro i
    have same := h.choices i
    rw [PartialChoice.ofShares_eq (sharesOf i cs), PartialChoice.ofShares_eq (sharesOf i ds),
      calls i, same.role, same.text, same.refusal, same.finishReason]
  have choices : (ofChunks cs).choices = (ofChunks ds).choices := by
    refine ByIndex.ext (ascending_choices cs) (ascending_choices ds) fun i => ?_
    refine Option.ext fun p => ?_
    rw [find?_choices_eq_some, find?_choices_eq_some, ne_eq, ne_eq, (h.choices i).mentioned,
      shares i]
  have fields : ∀ chunks, ofChunks chunks =
      { id := lastText (chunks.map StreamChunk.id)
        model := lastText (chunks.map StreamChunk.model)
        choices := (ofChunks chunks).choices
        usage := (chunks.filterMap StreamChunk.usage).getLast? } := by
    intro chunks
    rw [ofChunks_eq]
  rw [fields cs, fields ds, h.id, h.model, h.usage, choices]

/-- **What becomes of chunks depends on what they stream**, and not on how: chunks that stream the
same become the same, and what they become is put together from the fragments of each choice and
each call. -/
theorem finish_reassembled (chunks : List StreamChunk) :
    StreamChunk.Reassembled chunks (ofChunks chunks).finish ∧
      ∀ others, StreamChunk.SameStreamed chunks others →
        (ofChunks others).finish = (ofChunks chunks).finish := by
  refine ⟨?_, fun others same => by rw [ofChunks_eq_of_sameStreamed same]⟩
  rcases finish_cases chunks with
    ⟨silent, failed⟩ | ⟨i, j, reason, blamed, failed⟩ | ⟨r, made, done, ⟨i, there⟩, good⟩
  · rw [failed]
    refine ⟨⟨fun _ => silent, fun _ => rfl⟩, fun j reason => ⟨nofun, ?_⟩, ?_, nofun⟩
    · rintro ⟨i, blamed⟩
      exact absurd (silent i) blamed.undecodable.mentioned
    · exact ⟨fun _ => .inl silent, fun _ => ⟨_, rfl⟩⟩
  · rw [failed]
    refine ⟨⟨nofun, ?_⟩, fun j' reason' => ⟨?_, ?_⟩, ?_, nofun⟩
    · intro silent
      exact absurd (silent i) blamed.undecodable.mentioned
    · intro same
      obtain ⟨rfl, rfl⟩ := StreamError.invalidToolArguments.inj (Except.error.inj same)
      exact ⟨i, blamed⟩
    · rintro ⟨i', blamed'⟩
      obtain ⟨rfl, rfl⟩ := blamed.unique blamed'
      rfl
    · exact ⟨fun _ => .inr ⟨i, j, reason, blamed.undecodable⟩, fun _ => ⟨_, rfl⟩⟩
  · rw [done]
    refine ⟨⟨nofun, fun silent => absurd (silent i) there⟩, fun j reason => ⟨nofun, ?_⟩,
      ⟨nofun, ?_⟩, fun r' same => Except.ok.inj same ▸ made⟩
    · rintro ⟨i, blamed⟩
      exact absurd blamed.undecodable (good i j reason)
    · rintro (silent | ⟨i, j, reason, bad⟩)
      · exact absurd (silent i) there
      · exact absurd bad (good i j reason)

/-- Chunks of two choices, one of which asks for a tool in three fragments. -/
def piecemeal : List StreamChunk :=
  [⟨"r", "", [⟨1, ⟨none, some "he", none, [⟨2, some "a", none, some "\x7b\"n\""⟩]⟩, none⟩], none⟩,
    ⟨"", "m", [⟨0, ⟨none, some "x", none, []⟩, none⟩,
      ⟨1, ⟨some .assistant, some "llo", none, [⟨2, none, some "f", some ":"⟩,
        ⟨2, some "", none, some "7\x7d"⟩]⟩, some "stop"⟩], none⟩]

/-- The same in one chunk, choices and all. -/
def atOnce : List StreamChunk :=
  [⟨"r", "m", [⟨0, ⟨none, some "x", none, []⟩, none⟩,
    ⟨1, ⟨some .assistant, some "hello", none, [⟨2, some "a", some "f", some "\x7b\"n\":7\x7d"⟩]⟩,
      some "stop"⟩], none⟩]

/-- Both become the same response. -/
theorem finish_reassembled_atOnce :
    StreamChunk.SameStreamed piecemeal atOnce ∧ (ofChunks piecemeal).finish.isOk = true ∧
      (ofChunks atOnce).finish = (ofChunks piecemeal).finish := by
  have calls : ∀ chunks ∈ [piecemeal, atOnce],
      ∀ d ∈ (sharesOf 1 chunks).flatMap fun c => c.delta.toolCalls, d.index = 2 := by
    decide
  have choices : ∀ chunks ∈ [piecemeal, atOnce],
      ∀ c ∈ chunks.flatMap StreamChunk.choices, c.index = 0 ∨ c.index = 1 := by
    decide
  have same : StreamChunk.SameStreamed piecemeal atOnce := by
    refine ⟨rfl, rfl, rfl, fun i => ?_⟩
    by_cases first : i = 0
    · subst first
      exact .refl _
    by_cases second : i = 1
    · subst second
      refine ⟨by decide, by decide, by decide, by decide, by decide, fun j => ?_⟩
      by_cases third : j = 2
      · subst third
        exact ⟨by decide, by decide, by decide, by decide⟩
      · have none : ∀ chunks ∈ [piecemeal, atOnce], fragmentsOf j (sharesOf 1 chunks) = [] :=
          fun chunks mem => List.filter_eq_nil_iff.mpr fun d hd => by
            simpa [calls chunks mem d hd] using Ne.symm third
        rw [none piecemeal (by simp), none atOnce (by simp)]
        exact .refl _
    · have none : ∀ chunks ∈ [piecemeal, atOnce], sharesOf i chunks = [] :=
        fun chunks mem => List.filter_eq_nil_iff.mpr fun c hc => by
          rcases choices chunks mem c hc with zero | one
          · simpa [zero] using Ne.symm first
          · simpa [one] using Ne.symm second
      rw [none piecemeal (by simp), none atOnce (by simp)]
      exact .refl _
  exact ⟨same, by decide +kernel, (finish_reassembled piecemeal).2 atOnce same⟩

end PartialResponse

end Colloquy
