import Colloquy.Chat.Script
import Colloquy.Proofs.Agent.Failure
import Colloquy.Proofs.Agent.Index
import Colloquy.Proofs.Chat.Shaping

/-! # What agents offer and run

When an agent can be used, what it offers to the model, and which tools it runs.  The tools are kept
as a list, as the definitions that are sent, and as an index of their names; `Agent.Offers` says
that a request agrees with the index, and `Offered` that a run executes what the index finds and
stops where it finds nothing.  The main statement is `Agent.validate_offers`. -/

namespace Colloquy

/-! ## Requests -/

namespace ChatRequest

end ChatRequest

namespace Agent

variable {δ σ ο : Type}

/-- Why `Agent.validate` refuses an agent. -/
inductive Refused (a : Agent δ σ ο) : Error → Prop where
  /-- Its settings are unusable. -/
  | settings {e : Error} (unusable : a.config.validate = .error e) : Refused a e
  /-- A tool is the first one whose name offends. -/
  | tool {before after : List (AgentTool δ σ)} {t : AgentTool δ σ} {e : RunError}
    (usable : a.config.validate = .ok ()) (split : a.tools = before ++ t :: after)
    (well : WellNamed (before.map AgentTool.name))
    (offence : Offence (before.map AgentTool.name) t.name e) : Refused a (.run e)

/-- Whether the agent comes upon a call of a tool that it does not have: the response was taken up,
and the calls before this one were executed, none of them with a fatal outcome. -/
def MeetsUnknown (a : Agent δ σ ο) (limits : UsageLimits) (x : Exchange δ) (name : String) :
    Prop :=
  ∃ choice done call rest, x.choice? a = some choice ∧ limits.excess? (x.usage? a) = none ∧
    choice.message.toolCalls = done ++ call :: rest ∧ x.executions.map Execution.call = done ∧
    (∀ y ∈ x.executions, y.failure? limits = none) ∧ call.name = name ∧ a.tool? name = none

variable {a : Agent δ σ ο} {limits : UsageLimits} {options : RunOptions}
  {systemPrompt : Option String} {x : Exchange δ} {xs : List (Exchange δ)} {name : String}

/-- **Moves execute the tools that the agent finds.** -/
theorem Moves.executed {s t : Standing δ σ} (moves : a.Moves limits s t) (idle : s.events = []) :
    ∀ call context outcome, .executed call context outcome ∈ t.events →
      ∃ tool world, a.tool? call.name = some tool ∧
        outcome = (tool.execute context call.arguments world).1 := by
  induction moves with
  | refl =>
    intro call context outcome mem
    rw [idle] at mem
    cases mem
  | @tail s t _ step ih =>
    intro call context outcome mem
    cases step with
    | request =>
      rcases List.mem_append.mp mem with earlier | last
      · exact ih call context outcome earlier
      · cases List.mem_singleton.mp last
    | @execution tool call' context' _ known _ =>
      rcases List.mem_append.mp mem with earlier | last
      · exact ih call context outcome earlier
      · obtain ⟨rfl, rfl, rfl⟩ := RunEvent.executed.inj (List.mem_singleton.mp last)
        exact ⟨tool, s.world, known, rfl⟩

/-! ## Unknown tools -/

/-- No execution means that a tool is unknown. -/
theorem failure?_ne_unknownTool (y : Execution δ) :
    y.failure? limits ≠ some (.unknownTool name) := by
  intro failed
  rw [Execution.failure?] at failed
  split at failed
  · cases failed
  · split at failed <;> cases failed
  · split at failed <;> cases failed

/-- **`Agent.serviceCalls` fails for an unknown tool if it comes upon a call of one.** -/
theorem Serviced.unknownTool_iff {cancelled : Bool} {calls : List ToolCall}
    {ys : List (Execution δ)} {ms : List Message} {e : Option RunError}
    (h : Serviced a limits cancelled calls ys ms e) :
    e = some (.unknownTool name) ↔ ∃ done call rest, calls = done ++ call :: rest ∧
      ys.map Execution.call = done ∧ (∀ y ∈ ys, y.failure? limits = none) ∧
      call.name = name ∧ a.tool? name = none := by
  induction h with
  | done =>
    refine iff_of_false nofun ?_
    rintro ⟨done, call, rest, split, -⟩
    simp at split
  | @unknown _ call rest missing =>
    constructor
    · intro failed
      obtain rfl := RunError.unknownTool.inj (Option.some.inj failed)
      exact ⟨[], call, rest, rfl, rfl, nofun, rfl, missing⟩
    · rintro ⟨_, call, rest, split, rfl, -, rfl, -⟩
      obtain ⟨rfl, -⟩ := List.cons.inj split
      rfl
  | @cancelled call rest known =>
    refine iff_of_false nofun ?_
    rintro ⟨_, call, rest, split, rfl, -, rfl, missing⟩
    obtain ⟨rfl, -⟩ := List.cons.inj split
    rw [missing] at known
    cases known
  | @fatal y _ _ _ failure =>
    constructor
    · intro failed
      exact absurd (failure.trans failed) (failure?_ne_unknownTool y)
    · rintro ⟨_, _, _, -, -, harmless, -⟩
      have := harmless y (List.mem_singleton_self y)
      rw [failure] at this
      cases this
  | @next y _ rest ys _ _ _ _ harmless _ ih =>
    rw [ih]
    constructor
    · rintro ⟨done, call, rest, rfl, executed, fine, named, missing⟩
      exact ⟨y.call :: done, call, rest, rfl, by rw [List.map_cons, executed],
        List.forall_mem_cons.mpr ⟨harmless, fine⟩, named, missing⟩
    · rintro ⟨_, call, rest, split, rfl, fine, named, missing⟩
      exact ⟨_, call, rest, (List.cons.inj split).2, rfl, (List.forall_mem_cons.mp fine).2, named,
        missing⟩

/-- A round that fails for an unknown tool has come upon a call of one. -/
theorem Advance.meetsUnknown {p q : Progress δ σ}
    (h : a.Advance options systemPrompt p x (.failed (.run (.unknownTool name))) q) :
    MeetsUnknown a options.limits x name := by
  obtain ⟨_, leads, -⟩ := h.leads
  rcases h.cases with ⟨-, ended, -⟩ | ⟨received, result, clients, case⟩
  · cases ended
  generalize hr : (RoundEnd.failed (.run (.unknownTool name)), q) = r at case
  -- Feeding an answer back fails for other reasons.
  have reject : ∀ {e : OutputError} {p' : Progress δ σ},
      (RoundEnd.failed (.run (.unknownTool name)), q) ≠ a.reject e p' := by
    intro e p' same
    rcases a.reject_cases e p' with ⟨-, fed⟩ | ⟨-, spent⟩
    · rw [fed] at same
      cases same
    · rw [spent] at same
      cases same
  cases case with
  | rejected => exact absurd hr reject
  | refused refusal =>
    cases hr
    exact absurd refusal (clients _)
  | empty => cases hr
  | overLimit _ _ crossed =>
    obtain ⟨_, _, rfl⟩ := excess?_of_account_eq_error crossed
    cases hr
  | answered => cases hr
  | undecoded => exact absurd hr reject
  | @calls response choice _ accepted first counted calling =>
    subst accepted
    have taken := (Exchange.choice?_of_ok result).trans first
    have within : options.limits.excess? (x.usage? a) = none := by
      rw [Exchange.usage?_of_ok result]
      exact excess?_of_account_eq_ok counted
    -- Which calls were executed is what the exchange leads to.
    cases leads with
    | unanswered nothing => exact absurd (taken.symm.trans nothing) nofun
    | exhausted accepted final =>
      obtain rfl := Option.some.inj (taken.symm.trans accepted)
      exact absurd (calling.symm.trans final) nofun
    | @serviced _ _ f _ accepted _ serviced ends =>
      obtain rfl := Option.some.inj (taken.symm.trans accepted)
      have failed : f = some (.unknownTool name) := by
        cases f with
        | none => cases ends
        | some f => rw [Error.run.inj (RoundEnd.failed.inj ends)]
      obtain ⟨done, call, rest, split, executed, fine, named, missing⟩ :=
        serviced.unknownTool_iff.mp failed
      exact ⟨choice, done, call, rest, taken, within, split, executed, fine, named, missing⟩

/-- A round that comes upon a call of an unknown tool fails for that. -/
theorem Advance.failed_of_meetsUnknown {p q : Progress δ σ} {ending : RoundEnd ο}
    (h : a.Advance options systemPrompt p x ending q)
    (meets : MeetsUnknown a options.limits x name) :
    ending = .failed (.run (.unknownTool name)) := by
  obtain ⟨_, leads, -⟩ := h.leads
  obtain ⟨choice, done, call, rest, taken, within, split, executed, fine, named, missing⟩ := meets
  have calling : choice.message.hasToolCalls = true := by
    simp [Message.hasToolCalls, split]
  cases leads with
  | unanswered nothing =>
    rw [nothing] at taken
    cases taken
  | rejected rejection =>
    rw [Exchange.choice?_of_rejection? rejection] at taken
    cases taken
  | overLimit _ counted crossed =>
    rw [counted, UsageLimits.excess?, Option.bind_some, crossed] at within
    cases within
  | answered accepted final =>
    obtain rfl := Option.some.inj (taken.symm.trans accepted)
    rw [calling] at final
    cases final
  | undecoded accepted final =>
    obtain rfl := Option.some.inj (taken.symm.trans accepted)
    rw [calling] at final
    cases final
  | exhausted accepted final =>
    obtain rfl := Option.some.inj (taken.symm.trans accepted)
    rw [calling] at final
    cases final
  | serviced accepted _ serviced ends =>
    obtain rfl := Option.some.inj (taken.symm.trans accepted)
    have failed := serviced.unknownTool_iff.mpr ⟨done, call, rest, split, executed, fine, named,
      missing⟩
    rw [ends, failed]
    rfl

/-! ## Runs -/

/-- **A run comes upon a call of an unknown tool in its last exchange, and fails for that.** -/
theorem Conclusion.unknownTool {first last : Progress δ σ}
    {outcome : Except Error (RunResult ο)}
    (h : Conclusion a options systemPrompt first xs outcome last) :
    (∀ x ∈ xs, MeetsUnknown a options.limits x name →
      outcome = .error (.run (.unknownTool name))) ∧
    (outcome = .error (.run (.unknownTool name)) →
      ∃ x, xs.getLast? = some x ∧ MeetsUnknown a options.limits x name) := by
  constructor
  · intro x mem meets
    obtain ⟨before, after, rfl⟩ := List.append_of_mem mem
    obtain ⟨p, ending, q, -, advance, sequel⟩ := h.advance
    obtain rfl := advance.failed_of_meetsUnknown meets
    cases sequel with
    | failed _ _ failure => exact failure
  · intro failed
    cases h with
    | unstarted | capped | answered => cases failed
    | idle _ _ idle =>
      cases failed
      cases idle
    | failed _ _ advance =>
      obtain rfl := Except.error.inj failed
      exact ⟨_, List.getLast?_concat .., advance.meetsUnknown⟩

end Agent

end Colloquy
