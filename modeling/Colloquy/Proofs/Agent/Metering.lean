import Colloquy.Proofs.Agent.Failure

/-! # Tokens and tool calls of runs

A run adds up the tokens of the responses that it accepts and counts the tool calls that return, and
stops at the ceilings it was given for them.  `Agent.Metered` says what its totals are and where it
stops; the main statement, `Agent.run_metered`, is that it holds of every run. -/

namespace Colloquy

/-- The executions that an exchange holds are those among its events. -/
theorem Exchange.filterMap_events {δ : Type} (xs : List (Exchange δ)) :
    (xs.flatMap Exchange.events).filterMap RunEvent.execution? =
      xs.flatMap Exchange.executions := by
  rw [List.filterMap_flatMap]
  congr 1
  funext x
  rw [Exchange.events, List.filterMap_cons_none rfl, List.filterMap_map]
  exact List.filterMap_some

namespace Agent

variable {δ σ ο : Type}

/-- The totals of a run, and what its ceilings mean. -/
structure Metered (a : Agent δ σ ο) (options : RunOptions) (xs : List (Exchange δ))
    (outcome : Except Error (RunResult ο)) (final : Progress δ σ) : Prop where
  /-- A result has the total of the tokens of the responses that passed extraction. -/
  usage : ∀ result, outcome = .ok result →
    Usage.Totals (xs.filterMap (Exchange.usage? a)) result.usage
  /-- It has the number of tool executions that returned, with or without a failure to report. -/
  toolCalls : ∀ result, outcome = .ok result →
    result.toolCalls = final.executions.countP Execution.returns
  /-- No response of a successful run took more tokens than the ceiling. -/
  withinTokens : ∀ result, outcome = .ok result → 0 < options.limits.completionTokensLimit.toNat →
    ∀ x ∈ xs, ∀ u, x.usage? a = some u →
      u.completionTokens.toNat ≤ options.limits.completionTokensLimit.toNat
  /-- A successful run made no more tool calls than the ceiling. -/
  withinCalls : ∀ result, outcome = .ok result → 0 < options.limits.toolCallsLimit.toNat →
    result.toolCalls ≤ options.limits.toolCallsLimit.toNat
  /-- The first response that is accepted and takes more tokens than the ceiling ends the run,
  before it is appended or counted and before any of its tools is executed. -/
  tokens : ∀ before x after choice u, xs = before ++ x :: after → x.choice? a = some choice →
    x.usage? a = some u → 0 < options.limits.completionTokensLimit.toNat →
    options.limits.completionTokensLimit.toNat < u.completionTokens.toNat →
    after = [] ∧ x.executions = [] ∧ final.context.messages = x.request.messages ∧
      Usage.Totals (before.filterMap (Exchange.usage? a)) final.context.usage ∧
      outcome = .error (.run (.usageLimitExceeded ⟨.completionTokens, u.completionTokens.toNat,
        options.limits.completionTokensLimit.toNat⟩))
  /-- Nothing else ends a run for that ceiling. -/
  tokensOnly : ∀ l, outcome = .error (.run (.usageLimitExceeded l)) →
    l.limit = .completionTokens → ∃ before x choice u, xs = before ++ [x] ∧
      x.choice? a = some choice ∧ x.usage? a = some u ∧
      0 < options.limits.completionTokensLimit.toNat ∧
      options.limits.completionTokensLimit.toNat < u.completionTokens.toNat
  /-- The first execution that returns after as many as the ceiling allows ends the run: nothing is
  executed or requested after it. -/
  calls : ∀ before y after, final.executions = before ++ y :: after → y.returns = true →
    0 < options.limits.toolCallsLimit.toNat →
    before.countP Execution.returns = options.limits.toolCallsLimit.toNat →
    after = [] ∧ final.events.getLast? = some y.event ∧
      outcome = .error (.run (.usageLimitExceeded ⟨.toolCalls,
        options.limits.toolCallsLimit.toNat + 1, options.limits.toolCallsLimit.toNat⟩))
  /-- Nothing else ends a run for that ceiling. -/
  callsOnly : ∀ l, outcome = .error (.run (.usageLimitExceeded l)) → l.limit = .toolCalls →
    ∃ before y, final.executions = before ++ [y] ∧ y.returns = true ∧
      0 < options.limits.toolCallsLimit.toNat ∧
      before.countP Execution.returns = options.limits.toolCallsLimit.toNat

section Metered

variable {a : Agent δ σ ο} {options : RunOptions} {systemPrompt : Option String}
  {first p q final : Progress δ σ} {xs before after : List (Exchange δ)} {x : Exchange δ}
  {ysBefore ysAfter : List (Execution δ)} {y : Execution δ} {ending : RoundEnd ο}
  {outcome : Except Error (RunResult ο)} {l : UsageLimitExceeded} {beforehand : Bool}

/-! ## Tokens -/

/-- Counted tokens are added. -/
theorem usage_of_account_eq_ok {limits : UsageLimits} {usage : Option Usage}
    {c context : RunContext δ} (h : account limits usage c = .ok context) :
    context.usage = c.usage + usage.getD .zero := by
  have fine := excess?_of_account_eq_ok h
  rw [account_eq, fine] at h
  exact congrArg RunContext.usage (Except.ok.inj h).symm

/-- **An advance that does not fail counts the tokens of its response**, which are no more than the
ceiling. -/
theorem Advance.usage (h : a.Advance options systemPrompt p x ending q)
    (alive : ∀ e, ending ≠ .failed e) :
    q.context.usage = p.context.usage + (x.usage? a).getD .zero ∧
      options.limits.excess? (x.usage? a) = none := by
  rcases h.cases with ⟨-, rfl, -⟩ | ⟨received, result, -, case⟩
  · exact absurd rfl (alive _)
  · generalize hr : (ending, q) = r at case
    -- The request itself takes no tokens.
    have metered : ∀ {usage : Option Usage} {context : RunContext δ},
        account options.limits usage (a.dispatch systemPrompt p).2.context = .ok context →
        context.usage = p.context.usage + usage.getD .zero ∧
          options.limits.excess? usage = none := by
      intro usage context counted
      have total := usage_of_account_eq_ok counted
      exact ⟨total, excess?_of_account_eq_ok counted⟩
    cases case with
    | @rejected e rejection =>
      subst rejection
      have uncounted : x.usage? a = none := by rw [Exchange.usage?, result]
      rw [uncounted]
      refine ⟨?_, rfl⟩
      rcases a.reject_cases e (a.dispatch systemPrompt p).2 with ⟨-, fed⟩ | ⟨-, spent⟩
      · rw [fed] at hr
        obtain ⟨rfl, rfl⟩ := Prod.mk.inj hr
        exact (Usage.add_zero _).symm
      · rw [spent] at hr
        exact absurd (congrArg Prod.fst hr) (alive _)
    | refused => exact absurd (congrArg Prod.fst hr) (alive _)
    | empty => exact absurd (congrArg Prod.fst hr) (alive _)
    | overLimit => exact absurd (congrArg Prod.fst hr) (alive _)
    | calls accepted _ counted =>
      subst accepted
      obtain ⟨rfl, rfl⟩ := Prod.mk.inj hr
      rw [Exchange.usage?_of_ok result, (serviceCalls_frame ..).2]
      obtain ⟨total, within⟩ := metered counted
      exact ⟨total, within⟩
    | answered accepted _ counted =>
      subst accepted
      obtain ⟨rfl, rfl⟩ := Prod.mk.inj hr
      rw [Exchange.usage?_of_ok result]
      obtain ⟨total, within⟩ := metered counted
      exact ⟨total, within⟩
    | @undecoded response choice context e accepted _ counted =>
      subst accepted
      rw [Exchange.usage?_of_ok result]
      rcases a.reject_cases e { (a.dispatch systemPrompt p).2 with
        context := context.push choice.message } with ⟨-, fed⟩ | ⟨-, spent⟩
      · rw [fed] at hr
        obtain ⟨rfl, rfl⟩ := Prod.mk.inj hr
        obtain ⟨total, within⟩ := metered counted
        exact ⟨total, within⟩
      · rw [spent] at hr
        exact absurd (congrArg Prod.fst hr) (alive _)

/-- **A response over the ceiling of tokens ends the run** as the request left it. -/
theorem Advance.of_excess (h : a.Advance options systemPrompt p x ending q) {choice : Choice}
    (taken : x.choice? a = some choice)
    (excess : options.limits.excess? (x.usage? a) = some l) :
    ending = .failed (.run (.usageLimitExceeded l)) ∧ q = (a.dispatch systemPrompt p).2 := by
  rcases h.cases with ⟨lost, -, -⟩ | ⟨received, result, -, case⟩
  · rw [Exchange.choice?, Exchange.received?, lost] at taken
    cases taken
  · generalize hr : (ending, q) = r at case
    -- Tokens that cross the ceiling are not counted.
    have uncounted : ∀ {response : ChatResponse} {context : RunContext δ},
        x.received? a = some (.ok response) →
        account options.limits response.usage (a.dispatch systemPrompt p).2.context ≠
          .ok context := by
      intro response context result counted
      rw [Exchange.usage?_of_ok result, excess?_of_account_eq_ok counted] at excess
      cases excess
    cases case with
    | rejected rejection =>
      subst rejection
      rw [Exchange.choice?, result] at taken
      cases taken
    | refused refusal =>
      subst refusal
      rw [Exchange.choice?, result] at taken
      cases taken
    | empty accepted none =>
      subst accepted
      rw [Exchange.choice?_of_ok result, none] at taken
      cases taken
    | overLimit accepted _ crossed =>
      subst accepted
      obtain ⟨l', excess', rfl⟩ := excess?_of_account_eq_error crossed
      rw [Exchange.usage?_of_ok result, excess'] at excess
      obtain rfl := Option.some.inj excess
      exact Prod.mk.inj hr
    | calls accepted _ counted => exact absurd counted (uncounted (accepted ▸ result))
    | answered accepted _ counted => exact absurd counted (uncounted (accepted ▸ result))
    | undecoded accepted _ counted => exact absurd counted (uncounted (accepted ▸ result))

/-- An advance that ends as its request left the run has executed nothing. -/
theorem Advance.executions_of_dispatch (h : a.Advance options systemPrompt p x ending q)
    (place : q = (a.dispatch systemPrompt p).2) : x.executions = [] := by
  have same : q.executions = p.executions := by
    rw [place]
    simp [Progress.executions, RunEvent.execution?]
  have new := h.executions
  rw [same] at new
  exact List.self_eq_append_right.mp new

/-- **A trail has added the tokens of its responses.** -/
theorem Trail.usage (h : Trail a options systemPrompt first xs p)
    (fresh : first.context.usage = .zero) :
    p.context.usage = Usage.sum (xs.filterMap (Exchange.usage? a)) := by
  induction h with
  | start => exact fresh
  | @next xs p q x _ step ih =>
    obtain ⟨total, -⟩ := step.usage nofun
    rw [total, ih, Usage.sum_filterMap_concat]

/-- **The ceiling of tokens ends a run at the first response that crosses it**, as its request left
the run. -/
theorem Conclusion.of_excess {choice : Choice}
    (h : Conclusion a options systemPrompt first (before ++ x :: after) outcome final)
    (taken : x.choice? a = some choice)
    (excess : options.limits.excess? (x.usage? a) = some l) :
    after = [] ∧ outcome = .error (.run (.usageLimitExceeded l)) ∧
      ∃ p, Trail a options systemPrompt first before p ∧
        a.Advance options systemPrompt p x (.failed (.run (.usageLimitExceeded l))) final ∧
        final = (a.dispatch systemPrompt p).2 := by
  obtain ⟨p, ending, q, trail, advance, sequel⟩ := h.advance
  obtain ⟨rfl, place⟩ := advance.of_excess taken excess
  cases sequel with
  | failed last same failed =>
    subst same
    exact ⟨last, failed, p, trail, advance, place⟩

/-- **A run that succeeds has added the tokens of its responses.** -/
theorem Conclusion.usage (h : Conclusion a options systemPrompt first xs outcome final)
    (fresh : first.context.usage = .zero) {result : RunResult ο} (success : outcome = .ok result) :
    final.context.usage = Usage.sum (xs.filterMap (Exchange.usage? a)) := by
  cases h with
  | unstarted | capped | idle | failed => cases success
  | answered trail _ last =>
    obtain ⟨total, -⟩ := last.usage nofun
    rw [total, trail.usage fresh, Usage.sum_filterMap_concat]

/-- No response of a run that succeeds crossed the ceiling of tokens. -/
theorem Conclusion.excess? (h : Conclusion a options systemPrompt first xs outcome final)
    {result : RunResult ο} (success : outcome = .ok result) :
    ∀ x ∈ xs, options.limits.excess? (x.usage? a) = none := by
  intro x mem
  obtain ⟨before, after, rfl⟩ := List.append_of_mem mem
  obtain ⟨p, ending, q, -, advance, sequel⟩ := h.advance
  refine (advance.usage ?_).2
  rintro e rfl
  cases sequel with
  | failed _ _ failed => exact absurd (failed.symm.trans success) nofun

/-! ## Tool calls -/

/-- **A fatal execution is the last thing that a run does**, and the run fails for it. -/
theorem Conclusion.of_fatal {f : RunError}
    (h : Conclusion a options systemPrompt first (before ++ x :: after) outcome final)
    (place : x.executions = ysBefore ++ y :: ysAfter)
    (fatal : y.failure? options.limits = some f) :
    after = [] ∧ ysAfter = [] ∧ outcome = .error (.run f) := by
  obtain ⟨p, ending, q, -, advance, sequel⟩ := h.advance
  obtain ⟨_, leads, -⟩ := advance.leads
  obtain ⟨_, _, failure, serviced, rfl⟩ := leads.serviced_of_executed (by simp [place])
  obtain ⟨rfl, rfl⟩ := serviced.of_fatal place fatal
  cases sequel with
  | failed last _ failed => exact ⟨last, rfl, failed⟩

/-- A run has executed what its exchanges hold. -/
theorem Conclusion.executions (h : Conclusion a options systemPrompt first xs outcome final)
    (fresh : first.events = []) : final.executions = xs.flatMap Exchange.executions := by
  rw [Progress.executions, h.events, fresh, List.nil_append, Exchange.filterMap_events]

/-- **The ceiling of tool calls ends a run at the first execution that crosses it**: the one that
returns after as many as the ceiling allows. -/
theorem Conclusion.of_full (h : Conclusion a options systemPrompt first xs outcome final)
    (fresh : first.events = []) (sound : final.standing.Sound options.limits beforehand)
    (limited : 0 < options.limits.toolCallsLimit.toNat)
    (place : final.executions = ysBefore ++ y :: ysAfter) (returned : y.returns = true)
    (full : ysBefore.countP Execution.returns = options.limits.toolCallsLimit.toNat) :
    ysAfter = [] ∧ final.events.getLast? = some y.event ∧
      outcome = .error (.run (.usageLimitExceeded ⟨.toolCalls,
        options.limits.toolCallsLimit.toNat + 1, options.limits.toolCallsLimit.toNat⟩)) := by
  have crossed : options.limits.checkToolCalls (y.context.toolCalls + 1) =
      .error ⟨.toolCalls, options.limits.toolCallsLimit.toNat + 1,
        options.limits.toolCallsLimit.toNat⟩ := by
    rw [sound.shown _ y _ place, full]
    exact UsageLimits.checkToolCalls_eq_error.mpr ⟨limited, Nat.lt_succ_self _, rfl⟩
  have events := h.events
  rw [fresh, List.nil_append] at events
  rw [h.executions fresh] at place
  obtain ⟨xsBefore, x, xsAfter, earlier, later, rfl, own, -, rfl⟩ := exists_split_flatMap place
  obtain ⟨rfl, rfl, failed⟩ := h.of_fatal own (Execution.failure?_of_crossed returned crossed)
  refine ⟨rfl, ?_, failed⟩
  rw [events, List.flatMap_append, List.flatMap_singleton, Exchange.events, own, List.map_append,
    List.map_singleton, ← List.cons_append, ← List.append_assoc, List.getLast?_concat]

/-- Before any execution no more have returned than the ceiling allows. -/
theorem Conclusion.returned_le (h : Conclusion a options systemPrompt first xs outcome final)
    (fresh : first.events = []) (sound : final.standing.Sound options.limits beforehand)
    (limited : 0 < options.limits.toolCallsLimit.toNat)
    (place : final.executions = ysBefore ++ y :: ysAfter) :
    ysBefore.countP Execution.returns ≤ options.limits.toolCallsLimit.toNat := by
  by_contra exceeds
  obtain ⟨earlier, z, rest, rfl, counted, full⟩ :=
    exists_split_of_lt_countP (Nat.lt_of_not_le exceeds)
  -- The run would have ended there.
  rw [List.append_assoc, List.cons_append] at place
  obtain ⟨none, -, -⟩ := h.of_full fresh sound limited place counted full
  simp at none

/-- In a run that succeeds no more executions returned than the ceiling allows. -/
theorem Conclusion.toolCalls_le (h : Conclusion a options systemPrompt first xs outcome final)
    (fresh : first.events = []) (sound : final.standing.Sound options.limits beforehand)
    (limited : 0 < options.limits.toolCallsLimit.toNat) {result : RunResult ο}
    (success : outcome = .ok result) :
    final.context.toolCalls ≤ options.limits.toolCallsLimit.toNat := by
  by_contra exceeds
  have more : options.limits.toolCallsLimit.toNat < final.executions.countP Execution.returns :=
    (Nat.lt_of_not_le exceeds).trans_eq sound.toolCalls
  obtain ⟨before, y, after, place, returned, full⟩ := exists_split_of_lt_countP more
  obtain ⟨-, -, failed⟩ := h.of_full fresh sound limited place returned full
  exact absurd (success.symm.trans failed) nofun

end Metered

/-- **Every `Agent.run` is metered**: its totals are those of what it accepted and executed, and it
stops for a ceiling exactly where the ceiling is crossed. -/
theorem run_metered (a : Agent δ σ ο) (deps : δ) (runId : String) (options : RunOptions)
    (cancelled : Bool) (world : σ) :
    ∃ xs, (a.run deps runId options cancelled world).2.events = xs.flatMap Exchange.events ∧
      Metered a options xs (a.run deps runId options cancelled world).1
        (a.run deps runId options cancelled world).2 := by
  obtain ⟨xs, events, concludes⟩ := a.run_concludes deps runId options cancelled world
  have moves := a.moves_run deps runId options cancelled world
  generalize a.run deps runId options cancelled world = r at events concludes moves
  obtain ⟨outcome, final⟩ := r
  dsimp only at events concludes moves ⊢
  have sound := (Standing.Sound.start options.limits cancelled world).moves moves
  refine ⟨xs, events, ?_⟩
  constructor
  case usage =>
    rintro result rfl
    have total := concludes.usage rfl rfl
    rw [concludes.eq_finish rfl]
    change Usage.Totals _ final.context.usage
    rw [total]
    exact Usage.totals_sum _
  case toolCalls =>
    rintro result rfl
    rw [concludes.eq_finish rfl]
    exact sound.toolCalls
  case withinTokens =>
    rintro result rfl limited x mem u counted
    exact UsageLimits.excess?_eq_none.mp (concludes.excess? rfl x mem) u counted limited
  case withinCalls =>
    rintro result rfl limited
    rw [concludes.eq_finish rfl]
    exact concludes.toolCalls_le rfl sound limited rfl
  case tokens =>
    rintro before x after choice u rfl taken counted limited exceeds
    have excess := UsageLimits.excess?_eq_some.mpr ⟨u, counted, limited, exceeds, rfl⟩
    obtain ⟨none, failed, p, trail, advance, place⟩ := concludes.of_excess taken excess
    refine ⟨none, advance.executions_of_dispatch place, ?_, ?_, failed⟩
    · rw [place, advance.messages]
      rfl
    · rw [place]
      change Usage.Totals _ p.context.usage
      rw [trail.usage rfl]
      exact Usage.totals_sum _
  case tokensOnly =>
    rintro l rfl kind
    cases concludes.crossing rfl with
    | requests => cases kind
    | tokens accepted counted limited exceeds =>
      exact ⟨_, _, _, _, rfl, accepted, counted, limited, exceeds⟩
    | toolCalls => cases kind
  case calls =>
    intro before y after place returned limited full
    exact concludes.of_full rfl sound limited place returned full
  case callsOnly =>
    rintro l rfl kind
    cases concludes.crossing rfl with
    | requests => cases kind
    | tokens => cases kind
    | @toolCalls ys _ x before y place returned limited exceeds =>
      have split : final.executions = (ys.flatMap Exchange.executions ++ before) ++ [y] := by
        rw [concludes.executions rfl, List.flatMap_append, List.flatMap_singleton, place,
          List.append_assoc]
      rw [sound.shown _ y [] split] at exceeds
      exact ⟨_, y, split, returned, limited,
        (concludes.returned_le rfl sound limited split).antisymm (Nat.le_of_lt_succ exceeds)⟩

end Agent

end Colloquy
