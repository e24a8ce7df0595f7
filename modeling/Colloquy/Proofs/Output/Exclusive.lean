import Colloquy.Proofs.Output.Extract

/-! # Answers in tool mode

In tool mode an answer is a call of the output tool, and of nothing else.  What extraction makes of
a message depends on how often it calls the output tool and on which other tools it calls
(`extract_exclusive`); only a lone call of the output tool is ever taken from the message. -/

namespace Colloquy.ResponseFormat

variable {f : ResponseFormat} {m : Message}

/-- `validateText` returns the text if it is acceptable, and says of it why not otherwise. -/
theorem validateText_cases (f : ResponseFormat) (raw : String) :
    (f.Accepts raw ∧ f.validateText raw = .ok raw) ∨
      ¬ f.Accepts raw ∧ ∃ reason, f.validateText raw = .error (.schemaValidation raw reason) := by
  by_cases accepted : f.Accepts raw
  · exact .inl ⟨accepted, validateText_eq_ok.mpr ⟨rfl, accepted⟩⟩
  · refine .inr ⟨accepted, ?_⟩
    cases result : f.validateText raw with
    | ok s =>
      obtain ⟨rfl, accepts⟩ := validateText_eq_ok.mp result
      exact absurd accepts accepted
    | error e =>
      rw [validateText] at result
      split at result
      · exact ⟨_, congrArg _ (Except.error.inj result).symm⟩
      · split at result
        · exact ⟨_, congrArg _ (Except.error.inj result).symm⟩
        · cases result

/-- How many calls are of the output tool. -/
def outputCalls (calls : List ToolCall) : Nat := calls.countP fun c => c.name = outputToolName

/-- The calls of the output tool are counted by name. -/
theorem length_filter_isOutputCall (calls : List ToolCall) :
    (calls.filter isOutputCall).length = outputCalls calls :=
  List.countP_eq_length_filter.symm

/-- What `extract` in tool mode makes of a message, where `others` are the other tools that it
calls. -/
structure Exclusive (f : ResponseFormat) (m : Message) (others : List String) : Prop where
  /-- Without calls, the answer is missing. -/
  missing : outputCalls m.toolCalls = 0 → others = [] →
    f.extract m = (m, .error (.toolNotCalled outputToolName))
  /-- With calls of other tools alone, the model is still at work. -/
  working : outputCalls m.toolCalls = 0 → others ≠ [] → f.extract m = (m, .ok none)
  /-- With calls of other tools beside those of the output tool, it is misused. -/
  misused : 1 ≤ outputCalls m.toolCalls → others ≠ [] →
    f.extract m = (m, .error (.outputToolMisuse outputToolName others))
  /-- With several calls of the output tool alone, the answer is ambiguous. -/
  several : 2 ≤ outputCalls m.toolCalls → others = [] →
    f.extract m = (m, .error (.multipleOutputCalls outputToolName (outputCalls m.toolCalls)))
  /-- With one call of the output tool alone, that is the first call, and no call is left without
  it. -/
  lone : outputCalls m.toolCalls = 1 → others = [] →
    ∃ call, m.toolCalls[0]? = some call ∧ call.name = outputToolName ∧ m.toolCalls.eraseIdx 0 = []
  /-- The only call, if it is of the output tool, is taken from the message, its arguments become
  the last part of the content, and they are the answer if the schema accepts them. -/
  answer : ∀ call, m.toolCalls = [call] → call.name = outputToolName →
    ∃ outcome,
      f.extract m =
        ({ m with
            content := m.content ++ [.text (Json.obj call.arguments).compact]
            toolCalls := [] }, outcome) ∧
      (f.Accepts (Json.obj call.arguments).compact ∧
          outcome = .ok (some (Json.obj call.arguments).compact) ∨
        ¬ f.Accepts (Json.obj call.arguments).compact ∧
          ∃ reason, outcome = .error (.schemaValidation (Json.obj call.arguments).compact reason))

/-- **In tool mode an answer excludes all other calls.**  The other tools are named in order of
first appearance, each once, and the output tool is not among them. -/
theorem extract_exclusive (f : ResponseFormat) (m : Message) (tool : f.mode = .tool) :
    ∃ others, Appearances (otherNames m.toolCalls) others ∧ others.Nodup ∧
      outputToolName ∉ others ∧ f.Exclusive m others := by
  have others := appearances_otherTools m.toolCalls
  have extracted : f.extract m = f.extractFromTool m := by rw [extract, tool]
  simp only [extractFromTool, length_filter_isOutputCall] at extracted
  refine ⟨_, others, others.nodup, others.outputToolName_notMem, ?_⟩
  constructor
  case missing =>
    intro none alone
    rw [extracted, if_pos none, if_pos (List.isEmpty_iff.mpr alone)]
  case working =>
    intro none calling
    rw [extracted, if_pos none, if_neg (by simpa using calling)]
  case misused =>
    intro some calling
    rw [extracted, if_neg (Nat.ne_of_gt some), if_pos (by simpa using calling)]
  case several =>
    intro several alone
    rw [extracted, if_neg (by omega), if_neg (by simp [alone]), if_pos (Nat.lt_of_succ_le several)]
  case lone =>
    intro one alone
    rw [← length_filter_isOutputCall] at one
    obtain ⟨call, same, output⟩ := eq_singleton one alone
    rw [same]
    exact ⟨call, rfl, of_decide_eq_true output, rfl⟩
  case answer =>
    intro call same output
    have one : outputCalls m.toolCalls = 1 := by simp [outputCalls, same, output]
    have alone : otherTools m.toolCalls = [] := by
      simp [otherTools, same, isOutputCall, output, distinct]
    rw [if_neg (by omega), if_neg (by simp [alone]), if_neg (by omega)] at extracted
    simp only [same] at extracted
    refine ⟨_, extracted, ?_⟩
    rcases f.validateText_cases call.argumentText with
      ⟨accepted, result⟩ | ⟨refused, reason, result⟩
    · exact .inl ⟨accepted, by rw [result]; rfl⟩
    · exact .inr ⟨refused, reason, by rw [result]; rfl⟩

/-- A format in tool mode that accepts every object. -/
def anyObject : ResponseFormat := ⟨.tool, "", "", .compile (.obj [])⟩

/-- A message that calls the output tool among others, one of them twice. -/
def crowded : Message where
  role := .assistant
  content := []
  toolCalls := [⟨"a", "search", []⟩, ⟨"b", outputToolName, []⟩, ⟨"c", "fetch", []⟩,
    ⟨"d", "search", []⟩]
  toolCallId := none

/-- The crowded message is told which other tools it called. -/
theorem extract_exclusive_crowded :
    anyObject.mode = .tool ∧
      anyObject.extract crowded =
        (crowded, .error (.outputToolMisuse outputToolName ["search", "fetch"])) := by
  obtain ⟨others, named, _, _, exclusive⟩ := extract_exclusive anyObject crowded rfl
  have same : others = ["search", "fetch"] :=
    named.unique (appearances_otherTools crowded.toolCalls)
  subst same
  exact ⟨rfl, exclusive.misused (by decide) nofun⟩

end Colloquy.ResponseFormat
