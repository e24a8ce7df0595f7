import Colloquy.Proofs.Agent.Trail
import Colloquy.Proofs.Usage

/-! # Why runs fail

What can end a run with a failure: `Agent.ServiceFails` lists the reasons that the calls of a
response can give, `Exchange.Fails` those of an exchange, one for each place of a round that can
fail, and `Agent.Conclusion.crossing` says which ceiling a run can cross at which place. -/

namespace Colloquy

/-! ## Responses -/

namespace Exchange

variable {δ σ ο : Type} {a : Agent δ σ ο} {x : Exchange δ}

/-- Where the client accepted a response, its first choice is taken up. -/
theorem choice?_of_ok {response : ChatResponse} (h : x.received? a = some (.ok response)) :
    x.choice? a = response.first? := by
  rw [choice?, h]

/-- Where the client accepted a response, its tokens are those that it says. -/
theorem usage?_of_ok {response : ChatResponse} (h : x.received? a = some (.ok response)) :
    x.usage? a = response.usage := by
  rw [usage?, h]

/-- Where the client accepted a response, extraction did not reject it. -/
theorem rejection?_of_ok {response : ChatResponse} (h : x.received? a = some (.ok response)) :
    x.rejection? a = none := by
  rw [rejection?, h]

/-- A response that is taken up was not rejected by extraction. -/
theorem rejection?_of_choice? {choice : Choice} (h : x.choice? a = some choice) :
    x.rejection? a = none := by
  cases rejection : x.rejection? a with
  | none => rfl
  | some e => exact absurd (h.symm.trans (choice?_of_rejection? rejection)) nofun

end Exchange

namespace Agent

variable {δ : Type}

/-- Tokens are counted unless they cross the ceiling of a response. -/
theorem account_eq (limits : UsageLimits) (usage : Option Usage) (c : RunContext δ) :
    account limits usage c =
      match limits.excess? usage with
      | some l => .error (.usageLimitExceeded l)
      | none => .ok { c with usage := c.usage + usage.getD .zero } := by
  cases usage with
  | none =>
    change _ = Except.ok { c with usage := c.usage + Usage.zero }
    rw [Usage.add_zero]
    rfl
  | some u =>
    rw [account]
    cases check : limits.checkCompletionTokens u.completionTokens.toNat <;>
      simp [UsageLimits.excess?, check, Except.failure?, RunContext.addUsage]

/-- A response whose tokens are counted crosses no ceiling. -/
theorem excess?_of_account_eq_ok {limits : UsageLimits} {usage : Option Usage}
    {c context : RunContext δ} (h : account limits usage c = .ok context) :
    limits.excess? usage = none := by
  rw [account_eq] at h
  split at h
  · cases h
  · assumption

/-- A response whose tokens are not counted crosses a ceiling. -/
theorem excess?_of_account_eq_error {limits : UsageLimits} {usage : Option Usage}
    {c : RunContext δ} {e : RunError} (h : account limits usage c = .error e) :
    ∃ l, limits.excess? usage = some l ∧ e = .usageLimitExceeded l := by
  rw [account_eq] at h
  split at h
  · next l excess => exact ⟨l, excess, (Except.error.inj h).symm⟩
  · cases h

end Agent

/-! ## Tool calls -/

namespace Execution

variable {δ : Type} {x : Execution δ} {limits : UsageLimits} {e : RunError}

/-- An execution that returns once more than the ceiling of tool calls allows is fatal. -/
theorem failure?_of_crossed {l : UsageLimitExceeded} (returned : x.returns = true)
    (crossed : limits.checkToolCalls (x.context.toolCalls + 1) = .error l) :
    x.failure? limits = some (.usageLimitExceeded l) := by
  rw [returns] at returned
  split at returned
  · next result delivered => simp only [failure?, delivered, crossed]
  · cases returned

end Execution

namespace Agent

/-- Why servicing calls fails, given what was executed. -/
inductive ServiceFails {δ : Type} (limits : UsageLimits) (xs : List (Execution δ)) :
    RunError → Prop where
  /-- The agent does not have the tool. -/
  | unknown (name : String) : ServiceFails limits xs (.unknownTool name)
  /-- The run was cancelled, before a call or while its tool was executed. -/
  | cancelled : ServiceFails limits xs .cancelled
  /-- A tool asked for a retry on its last attempt. -/
  | exhausted (tool : String) (n : UInt32) (text : String) :
    ServiceFails limits xs (.toolRetriesExceeded tool n text)
  /-- The last execution returned once more than the ceiling of tool calls allows. -/
  | ceiling {before : List (Execution δ)} {x : Execution δ} {l : UsageLimitExceeded}
    (last : xs = before ++ [x]) (returned : x.returns = true)
    (crossed : limits.checkToolCalls (x.context.toolCalls + 1) = .error l) :
    ServiceFails limits xs (.usageLimitExceeded l)

variable {δ σ ο : Type} {a : Agent δ σ ο} {limits : UsageLimits} {cancelled : Bool}
  {calls : List ToolCall} {xs : List (Execution δ)} {x : Execution δ} {ms : List Message}
  {e : RunError}

/-- A fatal execution makes servicing its call fail. -/
theorem ServiceFails.of_failure? (h : x.failure? limits = some e) : ServiceFails limits [x] e := by
  rw [Execution.failure?] at h
  split at h
  · obtain rfl := Option.some.inj h
    exact .cancelled
  · split at h
    · obtain rfl := Option.some.inj h
      exact .exhausted _ _ _
    · cases h
  · next result delivered =>
    split at h
    · next l crossed =>
      obtain rfl := Option.some.inj h
      exact .ceiling (List.nil_append [x]).symm (by rw [Execution.returns, delivered]) crossed
    · cases h

/-- A failure after an execution is one that comes later. -/
theorem ServiceFails.cons (h : ServiceFails limits xs e) : ServiceFails limits (x :: xs) e := by
  cases h with
  | unknown name => exact .unknown name
  | cancelled => exact .cancelled
  | exhausted tool n text => exact .exhausted tool n text
  | @ceiling before y l last returned crossed =>
    have later : x :: xs = (x :: before) ++ [y] := congrArg (x :: ·) last
    exact .ceiling later returned crossed

namespace Serviced

/-- **Why servicing calls fails** is one of the reasons of `ServiceFails`. -/
theorem fails (h : Serviced a limits cancelled calls xs ms (some e)) :
    ServiceFails limits xs e := by
  generalize he : some e = failure at h
  induction h with
  | done => cases he
  | unknown =>
    obtain rfl := Option.some.inj he
    exact .unknown _
  | cancelled =>
    obtain rfl := Option.some.inj he
    exact .cancelled
  | fatal _ failure =>
    obtain rfl := Option.some.inj he
    exact .of_failure? failure
  | next _ _ _ _ ih => exact (ih he).cons

/-- A fatal execution is the last one, and servicing the calls fails for it. -/
theorem of_fatal {failure : Option RunError} {before after : List (Execution δ)}
    {x : Execution δ} (h : Serviced a limits cancelled calls xs ms failure)
    (split : xs = before ++ x :: after) (fatal : x.failure? limits = some e) :
    after = [] ∧ failure = some e := by
  induction h generalizing before with
  | done | unknown | cancelled => simp at split
  | @fatal y _ f _ failure =>
    obtain ⟨rfl, same⟩ := List.append_eq_singleton_iff.mp split.symm |>.resolve_right (by simp)
    obtain ⟨rfl, rfl⟩ := List.cons.inj same
    exact ⟨rfl, by rw [← failure, fatal]⟩
  | @next y _ _ _ _ _ _ _ harmless _ ih =>
    cases before with
    | nil =>
      obtain ⟨rfl, -⟩ := List.cons.inj split
      rw [harmless] at fatal
      cases fatal
    | cons z before =>
      obtain ⟨-, rest⟩ := List.cons.inj split
      exact ih rest

end Serviced

end Agent

/-! ## Exchanges -/

/-- Why an exchange ends its run with a failure. -/
inductive Exchange.Fails {δ σ ο : Type} (a : Agent δ σ ο) (limits : UsageLimits)
    (x : Exchange δ) : Error → Prop where
  /-- The run was cancelled before there was an answer. -/
  | cancelled (lost : x.answer.value? = none) : Fails a limits x (.run .cancelled)
  /-- The provider failed. -/
  | refused {e : Error} (refusal : x.received? a = some (.error e)) (other : ∀ f, e ≠ .run f) :
    Fails a limits x e
  /-- The response has no choices. -/
  | empty : Fails a limits x (.run .noResponse)
  /-- The response took more tokens than it may. -/
  | overLimit {choice : Choice} {u : Usage} {l : UsageLimitExceeded}
    (accepted : x.choice? a = some choice) (counted : x.usage? a = some u)
    (crossed : limits.checkCompletionTokens u.completionTokens.toNat = .error l) :
    Fails a limits x (.run (.usageLimitExceeded l))
  /-- Answers were rejected too often. -/
  | exhausted (n : UInt32) (e : OutputError) :
    Fails a limits x (.run (.outputRetriesExceeded n e))
  /-- A call of the response could not be serviced. -/
  | serviced {e : RunError} (failure : Agent.ServiceFails limits x.executions e) :
    Fails a limits x (.run e)

namespace Agent

variable {δ σ ο : Type} {a : Agent δ σ ο} {options : RunOptions} {systemPrompt : Option String}
  {first p q final : Progress δ σ} {xs : List (Exchange δ)} {x : Exchange δ}
  {outcome : Except Error (RunResult ο)} {e : Error} {l : UsageLimitExceeded}

/-- **An advance that fails** does so for one of the reasons of its exchange. -/
theorem Advance.fails (h : a.Advance options systemPrompt p x (.failed e) q) :
    x.Fails a options.limits e := by
  obtain ⟨_, leads, -⟩ := h.leads
  rcases h.cases with ⟨lost, ended, -⟩ | ⟨received, result, clients, case⟩
  · obtain rfl := RoundEnd.failed.inj ended
    exact .cancelled lost
  · generalize hr : (RoundEnd.failed e, q) = r at case
    have reject : ∀ {o : OutputError} {p' : Progress δ σ},
        (RoundEnd.failed e, q) = a.reject o p' → x.Fails a options.limits e := by
      intro o p' same
      rcases a.reject_cases o p' with ⟨-, fed⟩ | ⟨-, spent⟩
      · rw [fed] at same
        cases same
      · rw [spent] at same
        cases same
        exact .exhausted _ _
    cases case with
    | rejected => exact reject hr
    | refused refusal =>
      cases hr
      exact .refused (result.trans (congrArg some refusal))
        fun f same => clients f (same ▸ refusal)
    | empty =>
      cases hr
      exact .empty
    | @overLimit response choice _ accepted chosen crossed =>
      cases hr
      obtain ⟨u, l, counted, exceeds, rfl⟩ := account_eq_error crossed
      subst accepted
      exact .overLimit ((Exchange.choice?_of_ok result).trans chosen)
        ((Exchange.usage?_of_ok result).trans counted) exceeds
    | @calls response choice _ accepted chosen _ calling =>
      subst accepted
      have taken := (Exchange.choice?_of_ok result).trans chosen
      -- Which calls were executed is what the exchange leads to.
      cases leads with
      | unanswered nothing => exact absurd (taken.symm.trans nothing) nofun
      | overLimit accepted counted crossed => exact .overLimit accepted counted crossed
      | exhausted accepted final =>
        obtain rfl := Option.some.inj (taken.symm.trans accepted)
        exact absurd (calling.symm.trans final) nofun
      | @serviced _ ms f _ accepted _ serviced ends =>
        cases f with
        | none => cases ends
        | some f =>
          obtain rfl := RoundEnd.failed.inj ends
          exact .serviced serviced.fails
    | answered => cases hr
    | undecoded => exact reject hr

/-! ## Ceilings -/

/-- Which ceiling a run crosses, and where. -/
inductive Crossing (a : Agent δ σ ο) (options : RunOptions) (systemPrompt : Option String)
    (first : Progress δ σ) :
    UsageLimitExceeded → List (Exchange δ) → Progress δ σ → Prop where
  /-- That of requests, before a round. -/
  | requests {xs : List (Exchange δ)} {p : Progress δ σ}
    (trail : Trail a options systemPrompt first xs p)
    (early : xs.length < a.config.maxIterations.toNat)
    (limited : 0 < options.limits.requestLimit.toNat)
    (spent : options.limits.requestLimit.toNat ≤ p.context.requests) :
    Crossing a options systemPrompt first
      ⟨.requests, p.context.requests, options.limits.requestLimit.toNat⟩ xs p
  /-- That of tokens, by the last response. -/
  | tokens {xs : List (Exchange δ)} {q : Progress δ σ} {x : Exchange δ} {choice : Choice}
    {u : Usage} (accepted : x.choice? a = some choice) (counted : x.usage? a = some u)
    (limited : 0 < options.limits.completionTokensLimit.toNat)
    (exceeds : options.limits.completionTokensLimit.toNat < u.completionTokens.toNat) :
    Crossing a options systemPrompt first
      ⟨.completionTokens, u.completionTokens.toNat, options.limits.completionTokensLimit.toNat⟩
      (xs ++ [x]) q
  /-- That of tool calls, by the last execution. -/
  | toolCalls {xs : List (Exchange δ)} {q : Progress δ σ} {x : Exchange δ}
    {before : List (Execution δ)} {y : Execution δ}
    (split : x.executions = before ++ [y]) (returned : y.returns = true)
    (limited : 0 < options.limits.toolCallsLimit.toNat)
    (exceeds : options.limits.toolCallsLimit.toNat < y.context.toolCalls + 1) :
    Crossing a options systemPrompt first
      ⟨.toolCalls, y.context.toolCalls + 1, options.limits.toolCallsLimit.toNat⟩ (xs ++ [x]) q

/-- **A run that crosses a ceiling** does so before a round, by a response or by an execution. -/
theorem Conclusion.crossing (h : Conclusion a options systemPrompt first xs outcome final)
    (failed : outcome = .error (.run (.usageLimitExceeded l))) :
    Crossing a options systemPrompt first l xs final := by
  cases h with
  | unstarted | capped | answered => cases failed
  | idle trail early idle =>
    cases failed
    cases idle with
    | ceiling _ reached =>
      obtain ⟨limited, spent, rfl⟩ := UsageLimits.checkBeforeRequest_eq_error.mp reached
      exact .requests trail early limited spent
  | failed _ _ last =>
    obtain rfl := Except.error.inj failed
    cases last.fails with
    | refused _ other => exact absurd rfl (other _)
    | overLimit accepted counted crossed =>
      obtain ⟨limited, exceeds, rfl⟩ := UsageLimits.checkCompletionTokens_eq_error.mp crossed
      exact .tokens accepted counted limited exceeds
    | serviced failure =>
      cases failure with
      | ceiling place returned crossed =>
        obtain ⟨limited, exceeds, rfl⟩ := UsageLimits.checkToolCalls_eq_error.mp crossed
        exact .toolCalls place returned limited exceeds

end Agent

end Colloquy
