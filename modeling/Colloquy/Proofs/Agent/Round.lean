import Colloquy.Proofs.Agent.Service
import Colloquy.Proofs.Output.Extract

/-! # Rounds and exchanges

What one round of a run can come to, case by case (`RoundCase`, `ProceedCase`), and the same as an
`Exchange`: a request, the answer to it, and the tool calls that were executed before the next
request.  `Exchange.Leads` says what an exchange appends to the history and how its round ends.  The
main statement, `Agent.round_leads`, is that a round either dispatches nothing and fails, or adds
one exchange to the events and what that exchange leads to. -/

namespace Colloquy

/-- A request, what came back, and what was executed before the next request. -/
structure Exchange (δ : Type) where
  /-- The request as the provider saw it. -/
  request : ChatRequest
  /-- The provider's answer. -/
  answer : Delivery (Except ProviderError ChatResponse)
  /-- The tool calls that were executed, in order. -/
  executions : List (Execution δ)

namespace ChatRequest

/-- Shaping a request for its format leaves the conversation alone. -/
@[simp] theorem shaped_messages (r : ChatRequest) : r.shaped.messages = r.messages := by
  unfold shaped
  repeat' split
  all_goals rfl

end ChatRequest

namespace Exchange

variable {δ σ ο : Type}

/-- The events that an exchange leaves behind. -/
def events (x : Exchange δ) : List (RunEvent δ) :=
  .requested x.request x.answer :: x.executions.map Execution.event

/-- What the client made of the answer, if one was delivered. -/
def received? (a : Agent δ σ ο) (x : Exchange δ) : Option (Except Error ChatResponse) :=
  x.answer.value?.map (Client.receive a.answer.format?)

/-- The first choice of the response, if the client accepted one. -/
def choice? (a : Agent δ σ ο) (x : Exchange δ) : Option Choice :=
  match x.received? a with
  | some (.ok response) => response.first?
  | _ => none

/-- The failure of extraction for which the client rejected the response, if it did. -/
def rejection? (a : Agent δ σ ο) (x : Exchange δ) : Option OutputError :=
  match x.received? a with
  | some (.error (.output e)) => some e
  | _ => none

/-- The tokens of the response, if the client accepted one and it says so. -/
def usage? (a : Agent δ σ ο) (x : Exchange δ) : Option Usage :=
  match x.received? a with
  | some (.ok response) => response.usage
  | _ => none

/-- A response that extraction rejected has no choice that the run could take up. -/
theorem choice?_of_rejection? {a : Agent δ σ ο} {x : Exchange δ} {e : OutputError}
    (h : x.rejection? a = some e) : x.choice? a = none := by
  unfold rejection? at h
  unfold choice?
  split at h
  · next received => rw [received]
  · cases h

/-- What an exchange appends to the history and how `Agent.round` ends. -/
inductive Leads (a : Agent δ σ ο) (limits : UsageLimits) (x : Exchange δ) :
    List Message → RoundEnd ο → Prop where
  /-- No response, or none that could be taken up: the run fails. -/
  | unanswered {e : Error} (nothing : x.choice? a = none) (idle : x.executions = []) :
    Leads a limits x [] (.failed e)
  /-- Extraction rejected the response, and the model is told so. -/
  | rejected {e : OutputError} (rejection : x.rejection? a = some e) (idle : x.executions = []) :
    Leads a limits x [.user e.feedback] .again
  /-- The response took more tokens than it may. -/
  | overLimit {choice : Choice} {u : Usage} {l : UsageLimitExceeded}
    (accepted : x.choice? a = some choice) (counted : x.usage? a = some u)
    (crossed : limits.checkCompletionTokens u.completionTokens.toNat = .error l)
    (idle : x.executions = []) :
    Leads a limits x [] (.failed (.run (.usageLimitExceeded l)))
  /-- The response is an answer. -/
  | answered {choice : Choice} {output : ο} (accepted : x.choice? a = some choice)
    (final : choice.message.hasToolCalls = false)
    (decoded : a.answer.decode choice.structuredContent choice.message = .ok output)
    (idle : x.executions = []) :
    Leads a limits x [choice.message] (.answered output)
  /-- The answer cannot be decoded, and the model is told so. -/
  | undecoded {choice : Choice} {e : OutputError} (accepted : x.choice? a = some choice)
    (final : choice.message.hasToolCalls = false)
    (undecodable : a.answer.decode choice.structuredContent choice.message = .error e)
    (idle : x.executions = []) :
    Leads a limits x [choice.message, .user e.feedback] .again
  /-- The answer cannot be decoded, which has happened too often. -/
  | exhausted {choice : Choice} {e : OutputError} {f : Error}
    (accepted : x.choice? a = some choice) (final : choice.message.hasToolCalls = false)
    (undecodable : a.answer.decode choice.structuredContent choice.message = .error e)
    (idle : x.executions = []) :
    Leads a limits x [choice.message] (.failed f)
  /-- The response asks for tool calls. -/
  | serviced {choice : Choice} {ms : List Message} {e : Option RunError} {ending : RoundEnd ο}
    (accepted : x.choice? a = some choice) (calling : choice.message.hasToolCalls = true)
    (serviced : Agent.Serviced a limits x.answer.cancels choice.message.toolCalls x.executions ms e)
    (ends : ending = .ofFailure? e) :
    Leads a limits x (choice.message :: ms) ending

end Exchange

namespace Agent

variable {δ σ ο : Type}

/-! ## Cases of a round -/

/-- `Agent.reject` either appends feedback or ends the run. -/
theorem reject_cases (a : Agent δ σ ο) (e : OutputError) (p : Progress δ σ) :
    (p.rejected < a.config.outputBudget.toNat ∧
      a.reject e p = (.again,
        { p with
          context := p.context.push (.user e.feedback)
          rejected := p.rejected + 1 })) ∨
    (a.config.outputBudget.toNat ≤ p.rejected ∧
      a.reject e p =
        (.failed (.run (.outputRetriesExceeded a.config.outputBudget e)), p)) := by
  by_cases spent : a.config.outputBudget.toNat ≤ p.rejected
  · right
    exact ⟨spent, by rw [reject, if_pos spent]⟩
  · left
    exact ⟨Nat.lt_of_not_le spent, by rw [reject, if_neg spent]⟩

/-- `Agent.account` fails only at the ceiling of a response's own tokens. -/
theorem account_eq_error {limits : UsageLimits} {usage : Option Usage} {c : RunContext δ}
    {e : RunError} (h : account limits usage c = .error e) :
    ∃ u l, usage = some u ∧
      limits.checkCompletionTokens u.completionTokens.toNat = .error l ∧
        e = .usageLimitExceeded l := by
  cases usage with
  | none => cases h
  | some u =>
    rw [account] at h
    split at h
    · next l crossed =>
      obtain rfl := Except.error.inj h
      exact ⟨u, l, rfl, crossed, rfl⟩
    · cases h

/-- `Agent.account` changes nothing but the count. -/
theorem account_eq_ok {limits : UsageLimits} {usage : Option Usage} {c context : RunContext δ}
    (h : account limits usage c = .ok context) :
    context = { c with usage := context.usage } := by
  cases usage with
  | none =>
    obtain rfl := Except.ok.inj h
    rfl
  | some u =>
    rw [account] at h
    split at h
    · cases h
    · obtain rfl := Except.ok.inj h
      rfl

/-- What `Agent.proceed` can come to. -/
inductive ProceedCase (a : Agent δ σ ο) (options : RunOptions)
    (received : Except Error ChatResponse) (p : Progress δ σ) :
    RoundEnd ο × Progress δ σ → Prop where
  /-- Extraction rejected the response. -/
  | rejected {e : OutputError} (rejection : received = .error (.output e)) :
    ProceedCase a options received p (a.reject e p)
  /-- There is no response for another reason. -/
  | refused {e : Error} (refusal : received = .error e) (other : ∀ o, e ≠ .output o) :
    ProceedCase a options received p (.failed e, p)
  /-- The response has no choices. -/
  | empty {response : ChatResponse} (accepted : received = .ok response)
    (nothing : response.first? = none) :
    ProceedCase a options received p (.failed (.run .noResponse), p)
  /-- The response took too many tokens. -/
  | overLimit {response : ChatResponse} {choice : Choice} {e : RunError}
    (accepted : received = .ok response) (first : response.first? = some choice)
    (crossed : account options.limits response.usage p.context = .error e) :
    ProceedCase a options received p (.failed (.run e), p)
  /-- The response asks for tool calls. -/
  | calls {response : ChatResponse} {choice : Choice} {context : RunContext δ}
    (accepted : received = .ok response) (first : response.first? = some choice)
    (counted : account options.limits response.usage p.context = .ok context)
    (calling : choice.message.hasToolCalls = true) :
    ProceedCase a options received p
      (a.serviceCalls options choice.message.toolCalls
        { p with context := context.push choice.message })
  /-- The response is an answer. -/
  | answered {response : ChatResponse} {choice : Choice} {context : RunContext δ} {output : ο}
    (accepted : received = .ok response) (first : response.first? = some choice)
    (counted : account options.limits response.usage p.context = .ok context)
    (final : choice.message.hasToolCalls = false)
    (decoded : a.answer.decode choice.structuredContent choice.message = .ok output) :
    ProceedCase a options received p
      (.answered output, { p with context := context.push choice.message })
  /-- The response is an answer that cannot be decoded. -/
  | undecoded {response : ChatResponse} {choice : Choice} {context : RunContext δ}
    {e : OutputError} (accepted : received = .ok response)
    (first : response.first? = some choice)
    (counted : account options.limits response.usage p.context = .ok context)
    (final : choice.message.hasToolCalls = false)
    (undecodable : a.answer.decode choice.structuredContent choice.message = .error e) :
    ProceedCase a options received p
      (a.reject e { p with context := context.push choice.message })

/-- `Agent.proceed` comes to one of the cases of `ProceedCase`. -/
theorem proceedCase_proceed (a : Agent δ σ ο) (options : RunOptions)
    (received : Except Error ChatResponse) (p : Progress δ σ) :
    ProceedCase a options received p (a.proceed options received p) := by
  cases received with
  | error e =>
    -- Only a failure of extraction is fed back to the model.
    by_cases output : ∃ o, e = .output o
    · obtain ⟨o, rfl⟩ := output
      exact .rejected rfl
    · have other : ∀ o, e ≠ .output o := fun o h => output ⟨o, h⟩
      have : a.proceed options (.error e) p = (.failed e, p) := by
        cases e with
        | output o => exact absurd rfl (other o)
        | _ => rfl
      rw [this]
      exact .refused rfl other
  | ok response =>
    rw [proceed]
    cases first : response.first? with
    | none => exact .empty rfl first
    | some choice =>
      cases counted : account options.limits response.usage p.context with
      | error e => simpa only [counted] using ProceedCase.overLimit rfl first counted
      | ok context =>
        simp only [takeUp, Progress.onContext]
        cases calling : choice.message.hasToolCalls with
        | true =>
          rw [if_pos rfl]
          exact .calls rfl first counted calling
        | false =>
          rw [if_neg Bool.false_ne_true]
          cases decoded : a.answer.decode choice.structuredContent choice.message with
          | ok output => exact .answered rfl first counted calling decoded
          | error e => exact .undecoded rfl first counted calling decoded

/-- What `Agent.round` can come to. -/
inductive RoundCase (a : Agent δ σ ο) (options : RunOptions) (systemPrompt : Option String)
    (p : Progress δ σ) : RoundEnd ο × Progress δ σ → Prop where
  /-- The run is cancelled, so nothing is sent. -/
  | cancelled (stopped : p.context.cancelled = true) :
    RoundCase a options systemPrompt p (.failed (.run .cancelled), p)
  /-- The ceiling of requests is reached, so nothing is sent. -/
  | ceiling {l : UsageLimitExceeded} (running : p.context.cancelled = false)
    (reached : options.limits.checkBeforeRequest p.context.requests = .error l) :
    RoundCase a options systemPrompt p (.failed (.run (.usageLimitExceeded l)), p)
  /-- The run is cancelled while it waits for an answer. -/
  | undelivered (running : p.context.cancelled = false)
    (allowed : options.limits.checkBeforeRequest p.context.requests = .ok ())
    (lost : (a.dispatch systemPrompt p).1.value? = none) :
    RoundCase a options systemPrompt p
      (.failed (.run .cancelled), (a.dispatch systemPrompt p).2)
  /-- The provider answers. -/
  | delivered {answer : Except ProviderError ChatResponse} (running : p.context.cancelled = false)
    (allowed : options.limits.checkBeforeRequest p.context.requests = .ok ())
    (delivery : (a.dispatch systemPrompt p).1.value? = some answer) :
    RoundCase a options systemPrompt p
      (a.proceed options (Client.receive a.answer.format? answer) (a.dispatch systemPrompt p).2)

/-- `Agent.round` comes to one of the cases of `RoundCase`. -/
theorem roundCase_round (a : Agent δ σ ο) (options : RunOptions) (systemPrompt : Option String)
    (p : Progress δ σ) : RoundCase a options systemPrompt p (a.round options systemPrompt p) := by
  rw [round]
  cases stopped : p.context.cancelled with
  | true => exact .cancelled stopped
  | false =>
    rw [if_neg Bool.false_ne_true]
    cases allowed : options.limits.checkBeforeRequest p.context.requests with
    | error l => exact .ceiling stopped allowed
    | ok =>
      cases delivery : (a.dispatch systemPrompt p).1.value? with
      | none =>
        simp only [delivery]
        exact .undelivered stopped allowed delivery
      | some answer =>
        simp only [delivery]
        exact .delivered stopped allowed delivery

/-! ## A round as an exchange -/

@[simp] theorem dispatch_events (a : Agent δ σ ο) (systemPrompt : Option String)
    (p : Progress δ σ) :
    (a.dispatch systemPrompt p).2.events = p.events ++
      [.requested (a.request systemPrompt p.context.messages).shaped
        (a.dispatch systemPrompt p).1] := rfl

@[simp] theorem dispatch_messages (a : Agent δ σ ο) (systemPrompt : Option String)
    (p : Progress δ σ) :
    (a.dispatch systemPrompt p).2.context.messages = p.context.messages := rfl

/-- After `Agent.dispatch` a run is cancelled if it was cancelled while it waited. -/
theorem dispatch_cancelled (a : Agent δ σ ο) (systemPrompt : Option String) {p : Progress δ σ}
    (running : p.context.cancelled = false) :
    (a.dispatch systemPrompt p).2.context.cancelled = (a.dispatch systemPrompt p).1.cancels :=
  RunContext.after_cancelled (c := p.context.recordRequest) running _

/-- Going on from an answer executes what the exchange with that answer leads to. -/
theorem proceed_leads (a : Agent δ σ ο) (options : RunOptions) {request : ChatRequest}
    {answer : Delivery (Except ProviderError ChatResponse)}
    {response : Except ProviderError ChatResponse} {p : Progress δ σ}
    (delivery : answer.value? = some response) (flag : p.context.cancelled = answer.cancels) :
    ∃ (xs : List (Execution δ)) (ms : List Message),
      (⟨request, answer, xs⟩ : Exchange δ).Leads a options.limits ms
        (a.proceed options (Client.receive a.answer.format? response) p).1 ∧
      (a.proceed options (Client.receive a.answer.format? response) p).2.events =
        p.events ++ xs.map Execution.event ∧
      (a.proceed options (Client.receive a.answer.format? response) p).2.context.messages =
        p.context.messages ++ ms := by
  have case := a.proceedCase_proceed options (Client.receive a.answer.format? response) p
  generalize a.proceed options (Client.receive a.answer.format? response) p = r at case
  -- What was received does not depend on what is executed afterwards.
  let x : List (Execution δ) → Exchange δ := fun xs => ⟨request, answer, xs⟩
  have received : ∀ xs, (x xs).received? a = some (Client.receive a.answer.format? response) := by
    intro xs
    rw [Exchange.received?, delivery, Option.map_some]
  generalize Client.receive a.answer.format? response = result at case received
  have chosen : ∀ {r : ChatResponse} {c : Choice}, result = .ok r → r.first? = some c →
      ∀ xs, (x xs).choice? a = some c := by
    rintro r c rfl first xs
    rw [Exchange.choice?, received]
    exact first
  cases case with
  | @rejected e rejection =>
    subst rejection
    have rejection : (x []).rejection? a = some e := by rw [Exchange.rejection?, received]
    rcases a.reject_cases e p with ⟨-, fed⟩ | ⟨-, spent⟩
    · rw [fed]
      exact ⟨[], _, .rejected rejection rfl, by simp, rfl⟩
    · rw [spent]
      exact ⟨[], [], .unanswered (Exchange.choice?_of_rejection? rejection) rfl, by simp, by simp⟩
  | @refused e refusal other =>
    subst refusal
    have nothing : (x []).choice? a = none := by rw [Exchange.choice?, received]
    exact ⟨[], [], .unanswered nothing rfl, by simp, by simp⟩
  | empty accepted nothing =>
    subst accepted
    have nothing : (x []).choice? a = none := by rwa [Exchange.choice?, received]
    exact ⟨[], [], .unanswered nothing rfl, by simp, by simp⟩
  | overLimit accepted first failed =>
    obtain ⟨u, l, usage, crossed, rfl⟩ := account_eq_error failed
    have counted : (x []).usage? a = some u := by
      rw [Exchange.usage?, received, accepted]
      exact usage
    exact ⟨[], [], .overLimit (chosen accepted first _) counted crossed rfl, by simp, by simp⟩
  | @calls r choice context accepted first counted calling =>
    -- Counting tokens leaves the history and the flag alone, so the calls are serviced after the
    -- response has been appended to the same history.
    have same := account_eq_ok counted
    obtain ⟨xs, ms, e, serviced, ends, events, messages⟩ :=
      a.serviced_serviceCalls options choice.message.toolCalls
        { p with context := context.push choice.message }
    have flag' : context.cancelled = answer.cancels := by rw [same, ← flag]
    have history : context.messages = p.context.messages := by rw [same]
    rw [RunContext.push_cancelled, flag'] at serviced
    refine ⟨xs, choice.message :: ms, ?_, events, ?_⟩
    · exact .serviced (chosen accepted first _) calling serviced ends
    · rw [messages, RunContext.push_messages, history, List.append_assoc]
      rfl
  | @answered r choice context output accepted first counted final decoded =>
    have history : context.messages = p.context.messages := by rw [account_eq_ok counted]
    exact ⟨[], [choice.message], .answered (chosen accepted first _) final decoded rfl, by simp,
      by simp [history]⟩
  | @undecoded r choice context e accepted first counted final undecodable =>
    have history : context.messages = p.context.messages := by rw [account_eq_ok counted]
    rcases a.reject_cases e { p with context := context.push choice.message } with
      ⟨-, fed⟩ | ⟨-, spent⟩
    · rw [fed]
      exact ⟨[], [choice.message, .user e.feedback],
        .undecoded (chosen accepted first _) final undecodable rfl, by simp, by simp [history]⟩
    · rw [spent]
      exact ⟨[], [choice.message], .exhausted (chosen accepted first _) final undecodable rfl,
        by simp, by simp [history]⟩

/-- **A round as an exchange**: `Agent.round` either dispatches nothing and fails, or leaves the
events of one exchange, appends what the exchange leads to, and ends accordingly. -/
theorem round_leads (a : Agent δ σ ο) (options : RunOptions) (systemPrompt : Option String)
    (p : Progress δ σ) :
    ((a.round options systemPrompt p).2 = p ∧
      ∃ e, (a.round options systemPrompt p).1 = .failed e) ∨
    ∃ (x : Exchange δ) (ms : List Message),
      x.request = (a.request systemPrompt p.context.messages).shaped ∧
      x.Leads a options.limits ms (a.round options systemPrompt p).1 ∧
      (a.round options systemPrompt p).2.events = p.events ++ x.events ∧
      (a.round options systemPrompt p).2.context.messages = p.context.messages ++ ms := by
  have case := a.roundCase_round options systemPrompt p
  generalize a.round options systemPrompt p = r at case
  cases case with
  | cancelled => exact .inl ⟨rfl, _, rfl⟩
  | ceiling => exact .inl ⟨rfl, _, rfl⟩
  | undelivered running allowed lost =>
    -- The request was dispatched, so this is an exchange even though no answer came.
    right
    refine ⟨⟨_, (a.dispatch systemPrompt p).1, []⟩, [], rfl, .unanswered ?_ rfl, rfl, by simp⟩
    rw [Exchange.choice?, Exchange.received?, lost]
    rfl
  | delivered running allowed delivery =>
    right
    obtain ⟨xs, ms, leads, events, messages⟩ :=
      a.proceed_leads options delivery (a.dispatch_cancelled systemPrompt running)
    refine ⟨⟨_, (a.dispatch systemPrompt p).1, xs⟩, ms, rfl, leads, ?_, messages⟩
    rw [events, dispatch_events, List.append_assoc]
    rfl

end Agent

end Colloquy
