import Colloquy.Chat.Request
import Colloquy.Proofs.Json.RoundTrip
import Colloquy.Schema.Validate
import Mathlib.Logic.Function.Iterate

/-! # Shaping a request again and again

A request that passes through several layers may be shaped for its format more than once.
`ChatRequest.Reshaped` says what it is then: the hidden tool is offered once however often the
request is shaped, while each time adds the instructions of prompted mode anew.  The main statement
is `ChatRequest.reshaped_iterate`. -/

namespace Colloquy

/-- A text without the blanks at its start. -/
structure Text.StartTrimmed (text trimmed : String) : Prop where
  /-- Only blanks were dropped. -/
  blanks : ∃ lead, text.toList = lead ++ trimmed.toList ∧ ∀ c ∈ lead, Text.isBlank c = true
  /-- None is left at the start. -/
  first : ∀ c, trimmed.toList.head? = some c → Text.isBlank c = false

namespace ResponseFormat

variable (f : ResponseFormat)

/-- Several copies of the instruction, one after the other. -/
def instructions (n : Nat) : String := String.join (List.replicate n f.promptedSuffix)

/-- No copies say nothing. -/
@[simp] theorem instructions_zero : f.instructions 0 = "" := rfl

/-- One more copy comes after the others. -/
theorem instructions_succ (n : Nat) :
    f.instructions (n + 1) = f.instructions n ++ f.promptedSuffix := by
  simp [instructions, List.replicate_succ']

/-- **`promptedSuffix` ends with the schema**: after a text of its own comes the compact text of the
document, and that reads back to the document in canonical form, if it is one that is printed
exactly. -/
theorem promptedSuffix_ends : ∃ advice, f.promptedSuffix = advice ++ f.schema.document.compact ∧
    (Json.Plain (Json.depthLimit - 1) f.schema.document →
      Json.ofText f.schema.document.compact = .ok f.schema.document.canonical) :=
  ⟨_, rfl, Json.ofText_compact⟩

/-- `promptedAlone` is the suffix without the blanks at its start. -/
theorem startTrimmed_promptedAlone : Text.StartTrimmed f.promptedSuffix f.promptedAlone := by
  constructor
  case blanks =>
    refine ⟨f.promptedSuffix.toList.takeWhile Text.isBlank, ?_, fun c mem => ?_⟩
    · rw [promptedAlone, Text.trimStart, String.toList_ofList, List.takeWhile_append_dropWhile]
    · exact List.all_eq_true.mp List.all_takeWhile c mem
  case first =>
    intro c first
    rw [promptedAlone, Text.trimStart, String.toList_ofList] at first
    have other := List.head?_dropWhile_not Text.isBlank f.promptedSuffix.toList
    simpa [first] using other

end ResponseFormat

namespace ChatRequest

variable {r r' : ChatRequest} {f : ResponseFormat} {n : Nat}

/-- What `ChatRequest.shaped` makes of a request in `n` steps, and at least one. -/
inductive Reshaped (r : ChatRequest) (n : Nat) : ChatRequest → Prop where
  /-- Without a format it stays as it is. -/
  | unformatted (none : r.responseFormat = none) : Reshaped r n r
  /-- So it does in native mode. -/
  | native {f : ResponseFormat} (format : r.responseFormat = some f) (mode : f.mode = .native) :
    Reshaped r n r
  /-- In tool mode it does if a tool has the name of the hidden one. -/
  | taken {f : ResponseFormat} {t : ToolDefinition} (format : r.responseFormat = some f)
    (mode : f.mode = .tool) (mem : t ∈ r.tools)
    (named : t.name = ResponseFormat.outputToolName) : Reshaped r n r
  /-- Otherwise the hidden tool comes after the tools, once. -/
  | offered {f : ResponseFormat} (format : r.responseFormat = some f) (mode : f.mode = .tool)
    (free : ∀ t ∈ r.tools, t.name ≠ ResponseFormat.outputToolName) :
    Reshaped r n { r with tools := r.tools ++ [f.outputTool] }
  /-- In prompted mode a copy of the instruction comes after the system prompt each time. -/
  | appended {f : ResponseFormat} {prompt : String} (format : r.responseFormat = some f)
    (mode : f.mode = .prompted) (given : r.systemPrompt = some prompt) :
    Reshaped r n { r with systemPrompt := some (prompt ++ f.instructions n) }
  /-- Without a system prompt the first copy is one, without the blanks at its start. -/
  | begun {f : ResponseFormat} {first : String} (format : r.responseFormat = some f)
    (mode : f.mode = .prompted) (absent : r.systemPrompt = none)
    (trimmed : Text.StartTrimmed f.promptedSuffix first) :
    Reshaped r n { r with systemPrompt := some (first ++ f.instructions (n - 1)) }

/-! ## One step -/

/-- `shaped` leaves a request without a format alone. -/
theorem shaped_of_unformatted (none : r.responseFormat = none) : r.shaped = r := by
  simp only [shaped, none]

/-- `shaped` leaves a request in native mode alone. -/
theorem shaped_of_native (format : r.responseFormat = some f) (mode : f.mode = .native) :
    r.shaped = r := by
  simp only [shaped, format, mode]

/-- `shaped` in tool mode leaves a request alone that has a tool of the hidden one's name. -/
theorem shaped_of_taken {t : ToolDefinition} (format : r.responseFormat = some f)
    (mode : f.mode = .tool) (mem : t ∈ r.tools)
    (named : t.name = ResponseFormat.outputToolName) : r.shaped = r := by
  have present : (r.tools.any fun t => t.name = ResponseFormat.outputToolName) = true :=
    List.any_eq_true.mpr ⟨t, mem, decide_eq_true named⟩
  simp only [shaped, format, mode]
  rw [if_pos present]

/-- Otherwise it offers `outputTool`. -/
theorem shaped_of_free (format : r.responseFormat = some f) (mode : f.mode = .tool)
    (free : ∀ t ∈ r.tools, t.name ≠ ResponseFormat.outputToolName) :
    r.shaped = { r with tools := r.tools ++ [f.outputTool] } := by
  have absent : (r.tools.any fun t => t.name = ResponseFormat.outputToolName) ≠ true := by
    simpa using free
  simp only [shaped, format, mode]
  rw [if_neg absent]

/-- `shaped` in prompted mode appends `promptedSuffix` to the system prompt that is there. -/
theorem shaped_of_prompt {prompt : String} (format : r.responseFormat = some f)
    (mode : f.mode = .prompted) (given : r.systemPrompt = some prompt) :
    r.shaped = { r with systemPrompt := some (prompt ++ f.promptedSuffix) } := by
  simp only [shaped, format, mode, given]

/-- `shaped` in prompted mode begins with `promptedAlone` where there is no system prompt. -/
theorem shaped_of_absent (format : r.responseFormat = some f) (mode : f.mode = .prompted)
    (absent : r.systemPrompt = none) :
    r.shaped = { r with systemPrompt := some f.promptedAlone } := by
  simp only [shaped, format, mode, absent]

/-- **`shaped`** is the first step. -/
theorem reshaped_shaped (r : ChatRequest) : Reshaped r 1 r.shaped := by
  cases format : r.responseFormat with
  | none =>
    rw [shaped_of_unformatted format]
    exact .unformatted format
  | some f =>
    cases mode : f.mode with
    | native =>
      rw [shaped_of_native format mode]
      exact .native format mode
    | tool =>
      by_cases present : ∃ t ∈ r.tools, t.name = ResponseFormat.outputToolName
      · obtain ⟨t, mem, named⟩ := present
        rw [shaped_of_taken format mode mem named]
        exact .taken format mode mem named
      · have free : ∀ t ∈ r.tools, t.name ≠ ResponseFormat.outputToolName :=
          fun t mem named => present ⟨t, mem, named⟩
        rw [shaped_of_free format mode free]
        exact .offered format mode free
    | prompted =>
      cases given : r.systemPrompt with
      | some prompt =>
        have first := Reshaped.appended (n := 1) format mode given
        rw [f.instructions_succ, f.instructions_zero, String.empty_append] at first
        rwa [shaped_of_prompt format mode given]
      | none =>
        have first := Reshaped.begun (n := 1) format mode given f.startTrimmed_promptedAlone
        rw [f.instructions_zero, String.append_empty] at first
        rwa [shaped_of_absent format mode given]

/-- **`shaped` once more** is the next step. -/
theorem Reshaped.shaped (h : Reshaped r n r') (before : 1 ≤ n) :
    Reshaped r (n + 1) r'.shaped := by
  cases h with
  | unformatted none =>
    rw [shaped_of_unformatted none]
    exact .unformatted none
  | native format mode =>
    rw [shaped_of_native format mode]
    exact .native format mode
  | taken format mode mem named =>
    rw [shaped_of_taken format mode mem named]
    exact .taken format mode mem named
  | @offered f format mode free =>
    -- The tool that was offered the first time has the name now.
    rw [shaped_of_taken (r := { r with tools := r.tools ++ [f.outputTool] }) format mode
      List.mem_concat_self rfl]
    exact .offered format mode free
  | @appended f prompt format mode given =>
    rw [shaped_of_prompt (r := { r with systemPrompt := some (prompt ++ f.instructions n) })
      format mode rfl, String.append_assoc, ← f.instructions_succ]
    exact .appended format mode given
  | @begun f first format mode absent trimmed =>
    obtain ⟨n, rfl⟩ := Nat.exists_eq_add_of_le' before
    rw [Nat.add_sub_cancel, shaped_of_prompt
      (r := { r with systemPrompt := some (first ++ f.instructions n) }) format mode rfl,
      String.append_assoc, ← f.instructions_succ]
    exact .begun format mode absent trimmed

/-- **`r.shaped.shaped = r.shaped`**, unless it is in prompted mode. -/
theorem shaped_shaped (other : ∀ f, r.responseFormat = some f → f.mode ≠ .prompted) :
    r.shaped.shaped = r.shaped := by
  have once := r.reshaped_shaped
  generalize step : r.shaped = r' at once
  cases once with
  | unformatted => exact step
  | native => exact step
  | taken => exact step
  | offered format mode free => exact shaped_of_taken format mode List.mem_concat_self rfl
  | appended format mode => exact absurd mode (other _ format)
  | begun format mode => exact absurd mode (other _ format)

/-! ## Any number of steps -/

/-- **A request may be shaped any number of times.**  Only prompted mode does anything after the
first time, and what it does adds up; nothing but the tools and the system prompt ever changes. -/
theorem reshaped_iterate (r : ChatRequest) {n : Nat} (some : 1 ≤ n) :
    Reshaped r n (shaped^[n] r) ∧
      ((∀ f, r.responseFormat = .some f → f.mode ≠ .prompted) → shaped^[n] r = r.shaped) := by
  obtain ⟨n, rfl⟩ := Nat.exists_eq_add_of_le' some
  induction n with
  | zero => exact ⟨r.reshaped_shaped, fun _ => rfl⟩
  | succ n ih =>
    obtain ⟨steps, same⟩ := ih (Nat.le_add_left 1 n)
    rw [Function.iterate_succ_apply']
    refine ⟨steps.shaped (Nat.le_add_left 1 n), fun other => ?_⟩
    rw [same other, shaped_shaped other]

/-- A request that asks for an object in some mode, and has neither instructions nor tools. -/
def bare (mode : OutputMode) : ChatRequest :=
  { ChatRequest.new "m" [.user "hi"] with
    responseFormat := some ⟨mode, "Answer", "", .compile (.obj [("type", .str "object")])⟩ }

/-- Shaped three times, it has three copies of the instruction in prompted mode, the first one
trimmed, and a single tool in tool mode. -/
theorem reshaped_iterate_bare :
    1 ≤ 3 ∧ Reshaped (bare .prompted) 3 (shaped^[3] (bare .prompted)) ∧
      shaped^[3] (bare .tool) = (bare .tool).shaped ∧
      (shaped^[3] (bare .tool)).tools.map ToolDefinition.name = ["_output"] := by
  have once : (bare .tool).shaped.tools.map ToolDefinition.name = ["_output"] := by decide
  have same : shaped^[3] (bare .tool) = (bare .tool).shaped :=
    (reshaped_iterate (bare .tool) (by decide : 1 ≤ 3)).2 (by simp [bare])
  refine ⟨by decide, (reshaped_iterate (bare .prompted) (by decide)).1, same, ?_⟩
  rw [same, once]

end ChatRequest

end Colloquy
