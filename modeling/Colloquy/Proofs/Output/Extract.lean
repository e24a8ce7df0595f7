import Colloquy.Chat.Client
import Colloquy.Proofs.Except
import Colloquy.Proofs.Output.Calls
import Colloquy.Proofs.Output.Locate

/-! # What extraction finds

`ResponseFormat.Extracted` says, mode by mode, what a successful extraction makes of a message: the
model is still at work, or the message holds a text that satisfies the schema.  The main statements
are `extracted_of_extract`, that extraction finds nothing else, and `Client.receive_first`, that the
first choice of a response that the client accepts went through it. -/

namespace Colloquy

namespace Message

/-- A message asks for no tool calls if it has none. -/
theorem hasToolCalls_eq_false {m : Message} : m.hasToolCalls = false ↔ m.toolCalls = [] := by
  rw [hasToolCalls, Bool.not_eq_false', List.isEmpty_iff]

/-- A message asks for tool calls if it has some. -/
theorem hasToolCalls_eq_true {m : Message} : m.hasToolCalls = true ↔ m.toolCalls ≠ [] := by
  rw [← Bool.not_eq_false, Ne, hasToolCalls_eq_false]

end Message

namespace ResponseFormat

variable {f : ResponseFormat} {m m' : Message} {content : Option String}

/-- Whether a text is the JSON text of a value that satisfies the schema. -/
def Accepts (f : ResponseFormat) (text : String) : Prop :=
  ∃ v, Json.ofText text = .ok v ∧ f.schema.check v = .ok ()

/-- **`validateText` returns the text** that it is given, if it is acceptable, and nothing else. -/
theorem validateText_eq_ok {raw s : String} :
    f.validateText raw = .ok s ↔ raw = s ∧ f.Accepts s := by
  constructor
  · intro h
    rw [validateText] at h
    split at h
    · cases h
    · next v parsed =>
      split at h
      · cases h
      · next valid =>
        obtain rfl := Except.ok.inj h
        exact ⟨rfl, v, parsed, valid⟩
  · rintro ⟨rfl, v, parsed, valid⟩
    simp only [validateText, parsed, valid]

/-- `validateText` in `some`, as extraction uses it. -/
theorem map_validateText_eq_ok {raw : String} :
    (f.validateText raw).map some = .ok content ↔ content = some raw ∧ f.Accepts raw := by
  cases h : f.validateText raw with
  | error e =>
    have : ¬ f.Accepts raw := fun accepted => by
      rw [validateText_eq_ok.mpr ⟨rfl, accepted⟩] at h
      cases h
    simp [Except.map, this]
  | ok s =>
    obtain ⟨rfl, accepted⟩ := validateText_eq_ok.mp h
    simp [Except.map, accepted, eq_comm]

/-- What `extract` makes of a message if it succeeds: the message as it reads afterwards, and the
text of the answer. -/
inductive Extracted (f : ResponseFormat) (m : Message) : Message → Option String → Prop where
  /-- The model is still at work. -/
  | working (calling : m.toolCalls ≠ [])
    (others : f.mode = .tool → ∀ c ∈ m.toolCalls, isOutputCall c = false) :
    Extracted f m m none
  /-- The whole text is the answer, blanks around it aside. -/
  | native {s : String} (mode : f.mode = .native) (final : m.toolCalls = [])
    (whole : s.toList = Text.trim m.text.toList) (accepted : f.Accepts s) :
    Extracted f m m (some s)
  /-- The answer is found within the text. -/
  | prompted {s : String} (mode : f.mode = .prompted) (final : m.toolCalls = [])
    (found : Output.locate m.text.toList = some s.toList) (accepted : f.Accepts s) :
    Extracted f m m (some s)
  /-- The arguments of a lone call of the output tool are the answer. -/
  | tool {call : ToolCall} (mode : f.mode = .tool) (lone : m.toolCalls = [call])
    (output : isOutputCall call = true) (accepted : f.Accepts call.argumentText) :
    Extracted f m (answered m call []) (some call.argumentText)

namespace Extracted

/-- **A message that asks for no tool calls comes with an answer** that satisfies the schema. -/
theorem accepted_of_final (h : Extracted f m m' content) (final : m'.toolCalls = []) :
    ∃ s, content = some s ∧ f.Accepts s := by
  cases h with
  | working calling => exact absurd final calling
  | native _ _ _ accepted => exact ⟨_, rfl, accepted⟩
  | prompted _ _ _ accepted => exact ⟨_, rfl, accepted⟩
  | tool _ _ _ accepted => exact ⟨_, rfl, accepted⟩

end Extracted

/-! ## Extraction -/

/-- `extractFromText` takes the answer from where `find` finds it. -/
theorem extractFromText_eq_ok {find : List Char → Option (List Char)}
    (h : f.extractFromText find m = .ok content) :
    (m.toolCalls ≠ [] ∧ content = none) ∨
    (m.toolCalls = [] ∧ ∃ s, content = some s ∧ find m.text.toList = some s.toList ∧
      f.Accepts s) := by
  rw [extractFromText] at h
  split at h
  · next calling =>
    obtain rfl := Except.ok.inj h
    exact .inl ⟨Message.hasToolCalls_eq_true.mp calling, rfl⟩
  · next final =>
    right
    refine ⟨Message.hasToolCalls_eq_false.mp (Bool.eq_false_iff.mpr final), ?_⟩
    split at h
    · next raw found =>
      obtain ⟨rfl, accepted⟩ := map_validateText_eq_ok.mp h
      exact ⟨_, rfl, by rw [found, String.toList_ofList], accepted⟩
    · cases h

/-- The whole text, if anything is left of it, is the text without the blanks around it. -/
theorem wholeText_eq_some {s t : List Char} (h : wholeText s = some t) : t = Text.trim s := by
  rw [wholeText] at h
  split at h
  · cases h
  · exact (Option.some.inj h).symm

/-- `extractFromTool` takes the answer from the arguments of a lone call of the output tool. -/
theorem extracted_of_extractFromTool (mode : f.mode = .tool)
    (h : f.extractFromTool m = (m', .ok content)) : Extracted f m m' content := by
  rw [extractFromTool] at h
  split at h
  · next none =>
    obtain ⟨rfl, outcome⟩ := Prod.mk.inj h
    split at outcome
    · cases outcome
    · next others =>
      obtain rfl := Except.ok.inj outcome
      -- There are calls, or else the names of other tools would be none either.
      rw [List.length_eq_zero_iff, List.filter_eq_nil_iff] at none
      refine .working ?_ fun _ c hc => by simpa using none c hc
      intro empty
      exact others (by rw [empty]; rfl)
  · next called =>
    split at h
    · cases (Prod.mk.inj h).2
    · next others =>
      split at h
      · cases (Prod.mk.inj h).2
      · next single =>
        -- One call of the output tool was counted, and none of another tool.
        have others : otherTools m.toolCalls = [] := by simpa using others
        obtain ⟨call, lone, output⟩ := eq_singleton (by omega) others
        rw [lone] at h
        obtain ⟨rfl, outcome⟩ := Prod.mk.inj h
        obtain ⟨rfl, accepted⟩ := map_validateText_eq_ok.mp outcome
        exact .tool mode lone output accepted

/-- **`extract` succeeds only as `Extracted` says.** -/
theorem extracted_of_extract (h : f.extract m = (m', .ok content)) :
    Extracted f m m' content := by
  rw [extract] at h
  split at h
  · next mode =>
    obtain ⟨rfl, outcome⟩ := Prod.mk.inj h
    rcases extractFromText_eq_ok outcome with
      ⟨calling, rfl⟩ | ⟨final, s, rfl, found, accepted⟩
    · exact .working calling fun tool => by simp [mode] at tool
    · exact .native mode final (wholeText_eq_some found) accepted
  · next mode =>
    obtain ⟨rfl, outcome⟩ := Prod.mk.inj h
    rcases extractFromText_eq_ok outcome with
      ⟨calling, rfl⟩ | ⟨final, s, rfl, found, accepted⟩
    · exact .working calling fun tool => by simp [mode] at tool
    · exact .prompted mode final found accepted
  · next mode => exact extracted_of_extractFromTool mode h

end ResponseFormat

namespace Client

/-- **The first choice of what `Client.receive` accepts went through `extract`**, as did all others.
-/
theorem receive_first {f : ResponseFormat} {answer : Except ProviderError ChatResponse}
    {response : ChatResponse} {choice : Choice} (h : receive (some f) answer = .ok response)
    (first : response.first? = some choice) :
    ∃ delivered original, answer = .ok delivered ∧ delivered.first? = some original ∧
      f.Extracted original.message choice.message choice.structuredContent := by
  cases answer with
  | error e => cases h
  | ok delivered =>
    simp only [receive, extractInto] at h
    split at h
    · next choices extracted =>
      obtain rfl := Except.ok.inj h
      cases originals : delivered.choices with
      | nil =>
        rw [originals, extractChoices] at extracted
        obtain rfl := Except.ok.inj extracted
        cases first
      | cons original rest =>
        rw [originals, extractChoices] at extracted
        split at extracted
        · cases extracted
        · next message content one =>
          -- The other choices follow this one and do not change it.
          obtain ⟨others, -, same⟩ := Except.bind_eq_ok.mp extracted
          obtain rfl := Except.ok.inj same
          obtain rfl := Option.some.inj first
          refine ⟨delivered, original, rfl, ?_, ResponseFormat.extracted_of_extract one⟩
          rw [ChatResponse.first?, originals, List.head?_cons]
    · cases h

end Client

end Colloquy
