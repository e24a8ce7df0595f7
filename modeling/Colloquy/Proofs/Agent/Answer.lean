import Colloquy.Chat.Script
import Colloquy.Proofs.Agent.History
import Colloquy.Proofs.Agent.Index
import Colloquy.Proofs.Output.Locate

/-! # Structured answers of runs

An agent with structured output answers only with what a response really held.  `Grounded` says so
for the exchanges of a run; the main statement, `Agent.run_grounded`, is that every run of an agent
that passes validation is grounded.  Two facts carry it: extraction leaves no message without tool
calls and without content, and the hidden output tool is not among the agent's own tools. -/

namespace Colloquy

/-- Where the text of an answer stands: in which response it was sent, and in which message it ends
up in the history. -/
def ResponseFormat.Places (f : ResponseFormat) (original m : Message) (s : String) : Prop :=
  match f.mode with
  | .native => m = original ∧ s.toList = Text.trim m.text.toList
  | .prompted =>
    m = original ∧ Output.locate m.text.toList = some s.toList ∧ s.toList <:+: m.text.toList
  | .tool =>
    ∃ call, original.toolCalls = [call] ∧ call.name = outputToolName ∧ s = call.argumentText ∧
      m = answered original call [] ∧ m.content.getLast? = some (.text s)

namespace ResponseFormat

variable {f : ResponseFormat} {m m' : Message} {content : Option String}

/-- **Extracted content has its place** in the message that it was extracted from. -/
theorem Extracted.places {s : String} (h : Extracted f m m' (some s)) : f.Places m m' s := by
  rw [Places]
  cases h with
  | native mode _ whole =>
    rw [mode]
    exact ⟨rfl, whole⟩
  | prompted mode _ found =>
    rw [mode]
    exact ⟨rfl, found, (Output.locate_sound found).1.trans (Text.infix_trim _)⟩
  | @tool call mode lone output =>
    rw [mode]
    have named : call.name = outputToolName := by simpa [isOutputCall] using output
    exact ⟨call, lone, named, rfl, rfl, List.getLast?_concat ..⟩

end ResponseFormat

namespace Exchange

variable {δ σ ο : Type} {a : Agent δ σ ο} {x : Exchange δ} {choice : Choice}
  {format : ResponseFormat} {decode : String → Except Json.TextError ο}

/-- A choice that an agent with structured output takes up went through extraction. -/
theorem extracted_of_choice? (structured : a.answer = .structured format decode)
    (accepted : x.choice? a = some choice) :
    ∃ delivered original, x.answer.value? = some (.ok delivered) ∧
      delivered.first? = some original ∧
      format.Extracted original.message choice.message choice.structuredContent := by
  rw [choice?, received?, structured] at accepted
  cases delivery : x.answer.value? with
  | none =>
    rw [delivery] at accepted
    cases accepted
  | some answer =>
    rw [delivery, Option.map_some] at accepted
    cases received : Client.receive (some format) answer with
    | error e =>
      rw [Answer.format?, received] at accepted
      cases accepted
    | ok response =>
      rw [Answer.format?, received] at accepted
      obtain ⟨delivered, original, rfl, first, extracted⟩ := Client.receive_first received accepted
      exact ⟨delivered, original, rfl, first, extracted⟩

end Exchange

namespace Agent

variable {δ σ ο : Type} {a : Agent δ σ ο} {limits : UsageLimits} {systemPrompt : Option String}
  {h final ms : List Message} {xs : List (Exchange δ)} {x : Exchange δ}

/-! ## The hidden tool -/

/-- **A valid agent has no tool in the place of the hidden one.** -/
theorem tool?_outputToolName (valid : a.validate = .ok ()) :
    a.tool? ResponseFormat.outputToolName = none := by
  obtain ⟨-, well⟩ := validate_eq_ok.mp valid
  exact (tool?_eq_none well).mpr well.1

/-- Unless the run fails, no message that an exchange appends calls the hidden tool. -/
theorem not_outputCall_of_leads (valid : a.validate = .ok ()) {ending : RoundEnd ο}
    (leads : x.Leads a limits ms ending) (alive : ∀ e, ending ≠ .failed e) :
    ∀ m ∈ ms, ∀ c ∈ m.toolCalls, c.name ≠ ResponseFormat.outputToolName := by
  have idle : ∀ {m : Message}, m.toolCalls = [] →
      ∀ c ∈ m.toolCalls, c.name ≠ ResponseFormat.outputToolName := by
    intro m none c hc
    rw [none] at hc
    cases hc
  -- Only a response whose calls are serviced has calls at all.
  cases leads with
  | unanswered => exact absurd rfl (alive _)
  | rejected => exact List.forall_mem_singleton.mpr (idle rfl)
  | overLimit => exact absurd rfl (alive _)
  | answered _ final =>
    exact List.forall_mem_singleton.mpr (idle (Message.hasToolCalls_eq_false.mp final))
  | undecoded _ final =>
    refine List.forall_mem_cons.mpr ⟨idle (Message.hasToolCalls_eq_false.mp final), ?_⟩
    exact List.forall_mem_singleton.mpr (idle rfl)
  | exhausted => exact absurd rfl (alive _)
  | @serviced choice ms e _ _ _ serviced ends =>
    cases e with
    | some e => exact absurd ends (alive _)
    | none =>
      refine List.forall_mem_cons.mpr ⟨?_, fun m hm => idle (serviced.toolCalls_eq_nil m hm)⟩
      -- All calls were executed, and only calls of the agent's own tools are.
      intro c hc named
      rw [← serviced.calls_eq] at hc
      obtain ⟨y, hy, rfl⟩ := List.mem_map.mp hc
      have known := serviced.known y hy
      rw [named, tool?_outputToolName valid] at known
      cases known

namespace Course

/-- What holds of every message that an exchange appends unless the run fails holds of every message
that a course adds to the histories it shows. -/
theorem forall_appended {P : Message → Prop} {outcome : Except Error ο}
    (step : ∀ {x : Exchange δ} {ms : List Message} {ending : RoundEnd ο},
      x.Leads a limits ms ending → (∀ e, ending ≠ .failed e) → ∀ m ∈ ms, P m)
    (c : Course a limits systemPrompt h xs outcome final) :
    (∀ x ∈ xs, ∃ added, x.request.messages = h ++ added ∧ ∀ m ∈ added, P m) ∧
      ∀ output, outcome = .ok output → ∃ added, final = h ++ added ∧ ∀ m ∈ added, P m := by
  have here : ∀ {x : Exchange δ} {h : List Message},
      x.request = (a.request systemPrompt h).shaped →
      ∃ added, x.request.messages = h ++ added ∧ ∀ m ∈ added, P m := by
    intro x h request
    exact ⟨[], by rw [messages_of_request request, List.append_nil], by simp⟩
  induction c with
  | stopped => exact ⟨by simp, fun _ failed => by cases failed⟩
  | failed request => exact ⟨List.forall_mem_singleton.mpr (here request), fun _ ok => by cases ok⟩
  | answered request leads =>
    exact ⟨List.forall_mem_singleton.mpr (here request),
      fun _ _ => ⟨_, rfl, step leads fun _ failed => by cases failed⟩⟩
  | @next h ms final x xs outcome request leads later ih =>
    have new := step leads fun _ failed => by cases failed
    have extend : ∀ {h' : List Message},
        (∃ added, h' = h ++ ms ++ added ∧ ∀ m ∈ added, P m) →
        ∃ added, h' = h ++ added ∧ ∀ m ∈ added, P m := by
      rintro _ ⟨added, rfl, all⟩
      exact ⟨ms ++ added, List.append_assoc .., List.forall_mem_append.mpr ⟨new, all⟩⟩
    refine ⟨List.forall_mem_cons.mpr ⟨here request, fun y hy => extend (ih.1 y hy)⟩, ?_⟩
    exact fun output ok => extend (ih.2 output ok)

end Course

/-! ## The answer -/

/-- How the answer of a run with structured output rests on what the provider sent. -/
structure Grounded (a : Agent δ σ ο) (format : ResponseFormat)
    (decode : String → Except Json.TextError ο) (options : RunOptions) (xs : List (Exchange δ))
    (outcome : Except Error (RunResult ο)) : Prop where
  /-- The answer of a successful run is decoded from a text that satisfies the schema and has its
  place in the last response and in the last message, which asks for no tool calls. -/
  answer : ∀ result, outcome = .ok result →
    ∃ x delivered original m s, xs.getLast? = some x ∧ x.answer.value? = some (.ok delivered) ∧
      delivered.first? = some original ∧ result.messages.getLast? = some m ∧ m.toolCalls = [] ∧
      format.Accepts s ∧ decode s = .ok result.output ∧ format.Places original.message m s
  /-- Wherever the answer is decoded there is content to decode. -/
  content : ∀ x ∈ xs, ∀ choice, x.choice? a = some choice → choice.message.toolCalls = [] →
    ∃ s, choice.structuredContent = some s ∧ format.Accepts s ∧
      a.answer.decode choice.structuredContent choice.message =
        (decode s).mapError fun e => .decode s e.message
  /-- No message that the run adds to a history that it shows calls the hidden tool. -/
  hidden : ∀ h ∈ laterHistories xs outcome, ∃ added, h = opening options ++ added ∧
    ∀ m ∈ added, ∀ c ∈ m.toolCalls, c.name ≠ ResponseFormat.outputToolName

/-- **Runs with structured output are grounded**: whatever the provider sends and the tools do, an
agent that passes validation answers only with validated content of the last response. -/
theorem run_grounded (a : Agent δ σ ο) {format : ResponseFormat}
    {decode : String → Except Json.TextError ο} (structured : a.answer = .structured format decode)
    (valid : a.validate = .ok ()) (deps : δ) (runId : String) (options : RunOptions)
    (cancelled : Bool) (world : σ) :
    ∃ xs, (a.run deps runId options cancelled world).2.events = xs.flatMap Exchange.events ∧
      Grounded a format decode options xs (a.run deps runId options cancelled world).1 := by
  obtain ⟨xs, events, course, returned⟩ := a.run_course deps runId options cancelled world
  generalize a.run deps runId options cancelled world = r at events course returned
  refine ⟨xs, events, ?_⟩
  have content : ∀ x ∈ xs, ∀ choice, x.choice? a = some choice → choice.message.toolCalls = [] →
      ∃ s, choice.structuredContent = some s ∧ format.Accepts s ∧
        a.answer.decode choice.structuredContent choice.message =
          (decode s).mapError fun e => .decode s e.message := by
    intro x _ choice accepted final
    obtain ⟨_, _, -, -, extracted⟩ := Exchange.extracted_of_choice? structured accepted
    obtain ⟨s, same, satisfied⟩ := extracted.accepted_of_final final
    exact ⟨s, same, satisfied, by rw [structured, same, Answer.decode]⟩
  constructor
  case content => exact content
  case answer =>
    -- The last response is accepted and final, so it comes with content, which is decoded.
    intro result success
    rw [success] at course
    obtain ⟨x, last, choice, accepted, final, decoded, shown⟩ := course.last_answered
    obtain ⟨delivered, original, delivery, first, extracted⟩ :=
      Exchange.extracted_of_choice? structured accepted
    obtain ⟨s, same, satisfied, decoding⟩ :=
      content x (List.mem_of_getLast? last) choice accepted final
    rw [same] at extracted
    rw [decoding] at decoded
    refine ⟨x, delivered, original, choice.message, s, last, delivery, first, ?_, final, satisfied,
      Except.mapError_eq_ok.mp decoded, extracted.places⟩
    rw [returned result success, shown]
  case hidden =>
    -- Every appended message satisfies the step lemma, so every history shown does.
    obtain ⟨requests, result⟩ := course.forall_appended (not_outputCall_of_leads valid)
    intro h shown
    simp only [laterHistories, List.mem_append, List.mem_map] at shown
    rcases shown with ⟨y, hy, rfl⟩ | shown
    · exact requests y hy
    · cases outcome : r.1 with
      | error =>
        rw [outcome] at shown
        cases shown
      | ok success =>
        rw [outcome] at shown
        rw [List.mem_singleton.mp shown, returned success outcome]
        exact result success.output (by rw [outcome]; rfl)

/-- An agent without tools that asks for any JSON value within a text and plays from a script. -/
def rehearsal : Agent Unit Script String where
  complete := Script.provider.uninterrupted
  model := "stage"
  systemPrompts := []
  tools := []
  config := .standard
  toolChoice := none
  answer := .structured ⟨.prompted, "", "", .compile (.obj [])⟩ .ok

/-- A response without a JSON value in it, then one with it. -/
def rehearsalScript : Script where
  steps := ["Let me see.", "It is [true]."].map fun line =>
    .response (.single "stage" ⟨.assistant, [.text line], [], none⟩ none)
  seen := []

/-- A run that is told once that its answer was rejected, and then answers. -/
theorem run_grounded_rehearsal :
    (rehearsal.run () "r" (.ofPrompt "Is it?") false rehearsalScript).1.toOption.map
        RunResult.output = some "[true]" ∧
      rehearsal.validate = .ok () ∧
      ∃ xs, (rehearsal.run () "r" (.ofPrompt "Is it?") false rehearsalScript).2.events =
          xs.flatMap Exchange.events ∧
        Grounded rehearsal ⟨.prompted, "", "", .compile (.obj [])⟩ .ok (.ofPrompt "Is it?") xs
          (rehearsal.run () "r" (.ofPrompt "Is it?") false rehearsalScript).1 :=
  ⟨by decide +kernel, rfl,
    run_grounded rehearsal rfl rfl () "r" (.ofPrompt "Is it?") false rehearsalScript⟩

end Agent

end Colloquy
