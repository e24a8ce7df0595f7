import Colloquy.Proofs.Agent.Failure

/-! # Rejected answers

An answer can be rejected in two places: extraction finds no structured content in a response, or an
answer cannot be decoded.  Both draw on one budget for the whole run.  `Exchange.outputFailure?`
says which exchanges fail so, `Agent.OutputBudgeted` what their failures leave in the history and
when they end the run; the main statement, `Agent.run_outputBudgeted`, is that it holds of every
run. -/

namespace Colloquy

namespace Exchange

variable {δ σ ο : Type} {a : Agent δ σ ο} {limits : UsageLimits} {x : Exchange δ}

/-- The failure to decode a response, if the run takes it for an answer: it passed extraction, asks
for no tool calls, and took no more tokens than it may. -/
def decodeFailure? (a : Agent δ σ ο) (limits : UsageLimits) (x : Exchange δ) :
    Option OutputError :=
  match x.choice? a with
  | none => none
  | some choice =>
    if choice.message.hasToolCalls ∨ (limits.excess? (x.usage? a)).isSome then none
    else (a.answer.decode choice.structuredContent choice.message).failure?

/-- The failure for which an answer is rejected, of extraction or of decoding. -/
def outputFailure? (a : Agent δ σ ο) (limits : UsageLimits) (x : Exchange δ) :
    Option OutputError :=
  (x.rejection? a).or (x.decodeFailure? a limits)

/-- How many answers were rejected in some exchanges. -/
def failures (a : Agent δ σ ο) (limits : UsageLimits) (xs : List (Exchange δ)) : Nat :=
  xs.countP fun x => (x.outputFailure? a limits).isSome

/-- The response that a run keeps in its history. -/
def kept (a : Agent δ σ ο) (x : Exchange δ) : List Message :=
  ((x.choice? a).map Choice.message).toList

/-- Where extraction rejected a response, that is the failure of its answer. -/
theorem outputFailure?_of_rejection? {e : OutputError} (h : x.rejection? a = some e) :
    x.outputFailure? a limits = some e := by
  rw [outputFailure?, h, Option.some_or]

/-- An answer that cannot be decoded is that of a response that is taken up. -/
theorem choice?_of_decodeFailure? {e : OutputError} (h : x.decodeFailure? a limits = some e) :
    ∃ choice, x.choice? a = some choice := by
  rw [decodeFailure?] at h
  split at h
  · cases h
  · exact ⟨_, by assumption⟩

/-- Where an answer cannot be decoded, that is its failure. -/
theorem outputFailure?_of_decodeFailure? {e : OutputError}
    (h : x.decodeFailure? a limits = some e) : x.outputFailure? a limits = some e := by
  obtain ⟨choice, taken⟩ := choice?_of_decodeFailure? h
  rw [outputFailure?, rejection?_of_choice? taken, Option.none_or, h]

/-- Without a response to take up only extraction can have rejected one. -/
theorem outputFailure?_of_choice? (h : x.choice? a = none) :
    x.outputFailure? a limits = x.rejection? a := by
  rw [outputFailure?, decodeFailure?, h, Option.or_none]

/-- A response that is taken up fails only if it is an answer that cannot be decoded. -/
theorem outputFailure?_of_accepted {choice : Choice} (h : x.choice? a = some choice) :
    x.outputFailure? a limits =
      if choice.message.hasToolCalls ∨ (limits.excess? (x.usage? a)).isSome then none
      else (a.answer.decode choice.structuredContent choice.message).failure? := by
  rw [outputFailure?, rejection?_of_choice? h, Option.none_or, decodeFailure?, h]

end Exchange

namespace Agent

variable {δ σ ο : Type}

/-- The budget of rejected answers over a whole run, with the history that it ends with. -/
structure OutputBudgeted (a : Agent δ σ ο) (options : RunOptions) (xs : List (Exchange δ))
    (outcome : Except Error (RunResult ο)) (last : List Message) : Prop where
  /-- As long as the budget lasts, a response that extraction rejects leaves nothing but one message
  with feedback, which is the last one before the next request. -/
  extraction : ∀ before x after e, xs = before ++ x :: after → x.rejection? a = some e →
    Exchange.failures a options.limits before < a.config.outputBudget.toNat →
    nextHistory after last = x.request.messages ++ [.user e.feedback]
  /-- As long as the budget lasts, an answer that cannot be decoded is kept, followed by one message
  with feedback, which is the last one before the next request. -/
  decoding : ∀ before x after e, xs = before ++ x :: after →
    x.decodeFailure? a options.limits = some e →
    Exchange.failures a options.limits before < a.config.outputBudget.toNat →
    ∃ choice, x.choice? a = some choice ∧
      nextHistory after last = x.request.messages ++ [choice.message, .user e.feedback]
  /-- As long as the budget lasts, another request follows, unless the number of rounds, the ceiling
  of requests or a cancellation stops the run. -/
  recovered : ∀ before x e, xs = before ++ [x] → x.outputFailure? a options.limits = some e →
    Exchange.failures a options.limits before < a.config.outputBudget.toNat →
    outcome = .error (.run (.maxIterations a.config.maxIterations)) ∨
      outcome = .error (.run .cancelled) ∨
      ∃ l, outcome = .error (.run (.usageLimitExceeded l)) ∧ l.limit = .requests
  /-- The first failure after the budget is spent ends the run. -/
  spent : ∀ before x after e, xs = before ++ x :: after →
    x.outputFailure? a options.limits = some e →
    Exchange.failures a options.limits before = a.config.outputBudget.toNat →
    after = [] ∧ outcome = .error (.run (.outputRetriesExceeded a.config.outputBudget e))
  /-- Nothing else ends a run so. -/
  exceeded : ∀ n e, outcome = .error (.run (.outputRetriesExceeded n e)) →
    n = a.config.outputBudget ∧ ∃ before x, xs = before ++ [x] ∧
      x.outputFailure? a options.limits = some e ∧
      Exchange.failures a options.limits before = a.config.outputBudget.toNat
  /-- Every other run has no more failures than the budget allows. -/
  within : (∀ n e, outcome ≠ .error (.run (.outputRetriesExceeded n e))) →
    Exchange.failures a options.limits xs ≤ a.config.outputBudget.toNat

/-! ## What one exchange means for the budget -/

/-- What an advance means for the budget of rejected answers. -/
inductive BudgetCase (a : Agent δ σ ο) (limits : UsageLimits) (p : Progress δ σ)
    (x : Exchange δ) : RoundEnd ο → Progress δ σ → Prop where
  /-- No answer was rejected. -/
  | untouched {ending : RoundEnd ο} {q : Progress δ σ}
    (fine : x.outputFailure? a limits = none) (count : q.rejected = p.rejected)
    (other : ∀ n e, ending ≠ .failed (.run (.outputRetriesExceeded n e))) :
    BudgetCase a limits p x ending q
  /-- An answer was rejected, and the model is told so. -/
  | drawn {e : OutputError} {q : Progress δ σ} (failure : x.outputFailure? a limits = some e)
    (left : p.rejected < a.config.outputBudget.toNat) (count : q.rejected = p.rejected + 1)
    (history : q.context.messages = p.context.messages ++ x.kept a ++ [.user e.feedback]) :
    BudgetCase a limits p x .again q
  /-- An answer was rejected once too often. -/
  | spent {e : OutputError} {q : Progress δ σ} (failure : x.outputFailure? a limits = some e)
    (none : a.config.outputBudget.toNat ≤ p.rejected) :
    BudgetCase a limits p x (.failed (.run (.outputRetriesExceeded a.config.outputBudget e))) q

section Budget

variable {a : Agent δ σ ο} {options : RunOptions} {limits : UsageLimits}
  {systemPrompt : Option String} {first p q final : Progress δ σ} {xs : List (Exchange δ)}
  {x : Exchange δ} {ending : RoundEnd ο}

/-- `Agent.reject` draws on the budget or finds it spent. -/
theorem BudgetCase.reject {e : OutputError} {p' : Progress δ σ}
    (failure : x.outputFailure? a limits = some e) (count : p'.rejected = p.rejected)
    (history : p'.context.messages = p.context.messages ++ x.kept a) :
    BudgetCase a limits p x (a.reject e p').1 (a.reject e p').2 := by
  rcases a.reject_cases e p' with ⟨left, fed⟩ | ⟨spent, ended⟩
  · rw [fed]
    exact .drawn failure (count ▸ left) (congrArg (· + 1) count)
      (congrArg (· ++ [Message.user e.feedback]) history)
  · rw [ended]
    exact .spent failure (count ▸ spent)

/-- **What an advance means for the budget** is one of the cases of `BudgetCase`. -/
theorem Advance.budgetCase (h : a.Advance options systemPrompt p x ending q) :
    BudgetCase a options.limits p x ending q := by
  rcases h.cases with ⟨lost, rfl, rfl⟩ | ⟨received, result, clients, case⟩
  · have nothing : x.received? a = none := by rw [Exchange.received?, lost, Option.map_none]
    have unanswered : x.choice? a = none := by rw [Exchange.choice?, nothing]
    refine .untouched ?_ rfl fun _ _ same => by cases same
    rw [Exchange.outputFailure?_of_choice? unanswered, Exchange.rejection?, nothing]
  · generalize hr : (ending, q) = r at case
    cases case with
    | @rejected e rejection =>
      subst rejection
      have rejection : x.rejection? a = some e := by rw [Exchange.rejection?, result]
      have unkept : x.kept a = [] := by
        rw [Exchange.kept, Exchange.choice?_of_rejection? rejection]
        rfl
      obtain ⟨rfl, rfl⟩ := Prod.mk.inj hr
      refine .reject (Exchange.outputFailure?_of_rejection? rejection) rfl ?_
      rw [unkept, List.append_nil]
      rfl
    | @refused e refusal other =>
      subst refusal
      obtain ⟨rfl, rfl⟩ := Prod.mk.inj hr
      have nothing : x.choice? a = none := by rw [Exchange.choice?, result]
      refine .untouched ?_ rfl fun n e' same => ?_
      · rw [Exchange.outputFailure?_of_choice? nothing, Exchange.rejection?, result]
        cases e with
        | output o => exact absurd rfl (other o)
        | _ => rfl
      · obtain rfl := RoundEnd.failed.inj same
        exact clients _ rfl
    | empty accepted none =>
      subst accepted
      obtain ⟨rfl, rfl⟩ := Prod.mk.inj hr
      refine .untouched ?_ rfl fun _ _ same => by cases same
      rw [Exchange.outputFailure?_of_choice? ((Exchange.choice?_of_ok result).trans none),
        Exchange.rejection?_of_ok result]
    | @overLimit response choice e accepted chosen crossed =>
      subst accepted
      obtain ⟨rfl, rfl⟩ := Prod.mk.inj hr
      obtain ⟨l, excess, rfl⟩ := excess?_of_account_eq_error crossed
      refine .untouched ?_ rfl fun _ _ same => by cases same
      rw [Exchange.outputFailure?_of_accepted ((Exchange.choice?_of_ok result).trans chosen),
        Exchange.usage?_of_ok result, excess, if_pos (.inr rfl)]
    | @calls response choice context accepted chosen counted calling =>
      subst accepted
      obtain ⟨rfl, rfl⟩ := Prod.mk.inj hr
      refine .untouched ?_ (serviceCalls_frame ..).1 fun n e failed => ?_
      · rw [Exchange.outputFailure?_of_accepted ((Exchange.choice?_of_ok result).trans chosen),
          if_pos (.inl calling)]
      · obtain ⟨_, _, f, serviced, ends, -⟩ := a.serviced_serviceCalls options
          choice.message.toolCalls
          { (a.dispatch systemPrompt p).2 with context := context.push choice.message }
        rw [ends] at failed
        cases f with
        | none => cases failed
        | some f =>
          cases failed
          cases serviced.fails
    | @answered response choice context output accepted chosen counted final decoded =>
      subst accepted
      obtain ⟨rfl, rfl⟩ := Prod.mk.inj hr
      refine .untouched ?_ rfl fun _ _ same => by cases same
      rw [Exchange.outputFailure?_of_accepted ((Exchange.choice?_of_ok result).trans chosen),
        Exchange.usage?_of_ok result, excess?_of_account_eq_ok counted, if_neg (by simp [final]),
        decoded]
      rfl
    | @undecoded response choice context e accepted chosen counted final undecodable =>
      subst accepted
      obtain ⟨rfl, rfl⟩ := Prod.mk.inj hr
      have taken := (Exchange.choice?_of_ok result).trans chosen
      refine .reject (e := e) ?_ rfl ?_
      · rw [Exchange.outputFailure?_of_accepted taken, Exchange.usage?_of_ok result,
          excess?_of_account_eq_ok counted, if_neg (by simp [final]), undecodable]
        rfl
      · rw [Exchange.kept, taken, account_eq_ok counted]
        rfl

/-! ## What a run keeps -/

/-- Another exchange counts if its answer was rejected. -/
theorem failures_concat (a : Agent δ σ ο) (limits : UsageLimits) (xs : List (Exchange δ))
    (x : Exchange δ) : Exchange.failures a limits (xs ++ [x]) =
      Exchange.failures a limits xs + if (x.outputFailure? a limits).isSome then 1 else 0 := by
  rw [Exchange.failures, List.countP_append, List.countP_singleton, Exchange.failures]

/-- **A trail counts its rejected answers**, and stays within the budget. -/
theorem Trail.rejected (h : Trail a options systemPrompt first xs p) (fresh : first.rejected = 0) :
    p.rejected = Exchange.failures a options.limits xs ∧
      p.rejected ≤ a.config.outputBudget.toNat := by
  induction h with
  | start => exact ⟨fresh, fresh ▸ Nat.zero_le _⟩
  | next _ step ih =>
    rw [failures_concat]
    cases step.budgetCase with
    | untouched fine count =>
      rw [fine, count]
      exact ih
    | drawn failure left count =>
      rw [failure, count, ih.1]
      exact ⟨rfl, ih.1 ▸ left⟩

/-- **What a rejected answer means for its run**: either the budget lasts, and the model is told so,
or it is spent, and the run is over. -/
theorem Conclusion.of_outputFailure? {before after : List (Exchange δ)}
    {outcome : Except Error (RunResult ο)}
    {e : OutputError}
    (h : Conclusion a options systemPrompt first (before ++ x :: after) outcome final)
    (fresh : first.rejected = 0) (failure : x.outputFailure? a options.limits = some e) :
    (Exchange.failures a options.limits before < a.config.outputBudget.toNat ∧
      nextHistory after final.context.messages =
        x.request.messages ++ x.kept a ++ [.user e.feedback] ∧
      (after = [] → outcome = .error (.run (.maxIterations a.config.maxIterations)) ∨
        ∃ (f : RunError) (q : Progress δ σ), Idle options q f ∧ outcome = .error (.run f))) ∨
    (Exchange.failures a options.limits before = a.config.outputBudget.toNat ∧ after = [] ∧
      outcome = .error (.run (.outputRetriesExceeded a.config.outputBudget e))) := by
  obtain ⟨p, ending, q, trail, advance, sequel⟩ := h.advance
  obtain ⟨count, within⟩ := trail.rejected fresh
  rw [count] at within
  cases advance.budgetCase with
  | untouched fine => exact absurd (failure.symm.trans fine) nofun
  | drawn failure' left _ history =>
    obtain rfl := Option.some.inj (failure.symm.trans failure')
    rw [count] at left
    cases sequel with
    | again next stopped =>
      refine .inl ⟨left, by rw [next, history, advance.messages], fun none => ?_⟩
      obtain ⟨-, capped | ⟨f, idle, failed⟩⟩ := stopped none
      · exact .inl capped
      · exact .inr ⟨f, q, idle, failed⟩
  | spent failure' spent =>
    obtain rfl := Option.some.inj (failure.symm.trans failure')
    rw [count] at spent
    cases sequel with
    | failed last _ failed => exact .inr ⟨Nat.le_antisymm within spent, last, failed⟩

/-- A run fails for rejected answers only at the first failure after the budget is spent. -/
theorem Conclusion.of_outputRetriesExceeded {outcome : Except Error (RunResult ο)} {n : UInt32}
    {e : OutputError} (h : Conclusion a options systemPrompt first xs outcome final)
    (fresh : first.rejected = 0)
    (failed : outcome = .error (.run (.outputRetriesExceeded n e))) :
    n = a.config.outputBudget ∧ ∃ before x, xs = before ++ [x] ∧
      x.outputFailure? a options.limits = some e ∧
      Exchange.failures a options.limits before = a.config.outputBudget.toNat := by
  cases h with
  | unstarted | capped | answered => cases failed
  | idle _ _ idle =>
    cases failed
    cases idle
  | failed trail _ last =>
    obtain rfl := Except.error.inj failed
    obtain ⟨count, within⟩ := trail.rejected fresh
    generalize hf : (RoundEnd.failed (.run (.outputRetriesExceeded n e)) : RoundEnd ο) = f at last
    cases last.budgetCase with
    | untouched _ _ other => exact absurd hf.symm (other n e)
    | drawn => cases hf
    | spent failure spent =>
      cases hf
      exact ⟨rfl, _, _, rfl, failure, by omega⟩

/-- A run that does not fail for rejected answers has no more of them than the budget allows. -/
theorem Conclusion.failures_le {outcome : Except Error (RunResult ο)}
    (h : Conclusion a options systemPrompt first xs outcome final) (fresh : first.rejected = 0)
    (other : ∀ n e, outcome ≠ .error (.run (.outputRetriesExceeded n e))) :
    Exchange.failures a options.limits xs ≤ a.config.outputBudget.toNat := by
  have within : ∀ {xs : List (Exchange δ)} {p : Progress δ σ},
      Trail a options systemPrompt first xs p →
      Exchange.failures a options.limits xs ≤ a.config.outputBudget.toNat := by
    intro xs p trail
    obtain ⟨count, within⟩ := trail.rejected fresh
    rwa [count] at within
  cases h with
  | unstarted => exact Nat.zero_le _
  | capped trail => exact within trail
  | idle trail => exact within trail
  | answered trail _ last =>
    cases last.budgetCase with
    | untouched fine =>
      rw [failures_concat, fine]
      exact within trail
  | failed trail _ last =>
    cases last.budgetCase with
    | untouched fine =>
      rw [failures_concat, fine]
      exact within trail
    | spent => exact absurd rfl (other _ _)

end Budget

/-- **The output budget holds in every run**: rejected answers of either kind draw on one budget,
which is never refilled, and a run ends for it exactly at the first failure after it is spent. -/
theorem run_outputBudgeted (a : Agent δ σ ο) (deps : δ) (runId : String) (options : RunOptions)
    (cancelled : Bool) (world : σ) :
    ∃ xs, (a.run deps runId options cancelled world).2.events = xs.flatMap Exchange.events ∧
      OutputBudgeted a options xs (a.run deps runId options cancelled world).1
        (a.run deps runId options cancelled world).2.context.messages := by
  obtain ⟨xs, events, concludes⟩ := a.run_concludes deps runId options cancelled world
  generalize a.run deps runId options cancelled world = r at events concludes
  obtain ⟨outcome, final⟩ := r
  dsimp only at events concludes ⊢
  refine ⟨xs, events, ?_⟩
  -- The cases of a rejected answer while the budget lasts.
  have lasting : ∀ before x after e, xs = before ++ x :: after →
      x.outputFailure? a options.limits = some e →
      Exchange.failures a options.limits before < a.config.outputBudget.toNat →
      nextHistory after final.context.messages =
          x.request.messages ++ x.kept a ++ [.user e.feedback] ∧
        (after = [] → outcome = .error (.run (.maxIterations a.config.maxIterations)) ∨
          ∃ (f : RunError) (q : Progress δ σ), Idle options q f ∧ outcome = .error (.run f)) := by
    rintro before x after e rfl failure left
    rcases concludes.of_outputFailure? rfl failure with ⟨-, next, stopped⟩ | ⟨spent, -⟩
    · exact ⟨next, stopped⟩
    · exact absurd spent left.ne
  constructor
  case extraction =>
    intro before x after e split rejection left
    obtain ⟨next, -⟩ := lasting before x after e split
      (Exchange.outputFailure?_of_rejection? rejection) left
    rw [next, Exchange.kept, Exchange.choice?_of_rejection? rejection]
    simp
  case decoding =>
    intro before x after e split failure left
    obtain ⟨choice, taken⟩ := Exchange.choice?_of_decodeFailure? failure
    obtain ⟨next, -⟩ := lasting before x after e split
      (Exchange.outputFailure?_of_decodeFailure? failure) left
    refine ⟨choice, taken, ?_⟩
    rw [next, Exchange.kept, taken]
    simp
  case recovered =>
    intro before x e split failure left
    obtain ⟨-, stopped⟩ := lasting before x [] e split failure left
    rcases stopped rfl with capped | ⟨f, q, idle, failed⟩
    · exact .inl capped
    · cases idle with
      | cancelled => exact .inr (.inl failed)
      | ceiling _ reached =>
        obtain ⟨-, -, rfl⟩ := UsageLimits.checkBeforeRequest_eq_error.mp reached
        exact .inr (.inr ⟨_, failed, rfl⟩)
  case spent =>
    rintro before x after e rfl failure spent
    rcases concludes.of_outputFailure? rfl failure with ⟨left, -⟩ | ⟨-, last, failed⟩
    · exact absurd spent left.ne
    · exact ⟨last, failed⟩
  case exceeded =>
    intro n e failed
    exact concludes.of_outputRetriesExceeded rfl failed
  case within =>
    intro other
    exact concludes.failures_le rfl other

end Agent

end Colloquy
