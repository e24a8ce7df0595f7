import Colloquy.Proofs.Agent.Course

/-! # The history of a run

The conversation of a run is appended to and never rewritten.  `Disciplined` says what that means
for the exchanges of a run: every request continues the ones before it, every response that asks for
tool calls is followed by their results, and calls are executed once and in order up to the first
fatal outcome.  The main statement, `Agent.run_disciplined`, is that every run is disciplined. -/

namespace Colloquy

namespace Agent

variable {δ σ ο : Type}

/-- The conversations that are sent, or returned at the end, after some exchange. -/
def laterHistories (after : List (Exchange δ)) (outcome : Except Error (RunResult ο)) :
    List (List Message) :=
  after.map (fun x => x.request.messages) ++
    match outcome with
    | .ok result => [result.messages]
    | .error _ => []

/-- What an exchange may append to the history of a run that shows it again. -/
inductive Turn (a : Agent δ σ ο) (x : Exchange δ) : List Message → Prop where
  /-- Feedback on a response that extraction rejected. -/
  | feedback {e : OutputError} (rejection : x.rejection? a = some e) :
    Turn a x [.user e.feedback]
  /-- An answer that could not be decoded, and feedback on it. -/
  | corrected {choice : Choice} {e : OutputError} (accepted : x.choice? a = some choice)
    (final : choice.message.toolCalls = [])
    (undecodable : a.answer.decode choice.structuredContent choice.message = .error e) :
    Turn a x [choice.message, .user e.feedback]
  /-- The answer. -/
  | answer {choice : Choice} (accepted : x.choice? a = some choice)
    (final : choice.message.toolCalls = []) :
    Turn a x [choice.message]
  /-- A response that asks for tool calls, followed by one result for each of them, in order. -/
  | called {choice : Choice} {replies : List Message} (accepted : x.choice? a = some choice)
    (calling : choice.message.toolCalls ≠ [])
    (answered : List.Forall₂ ToolCall.AnsweredBy choice.message.toolCalls replies) :
    Turn a x (choice.message :: replies)

end Agent

/-! ## What an exchange leaves -/

namespace Exchange.Leads

variable {δ σ ο : Type} {a : Agent δ σ ο} {limits : UsageLimits} {x : Exchange δ}
  {ms : List Message} {ending : RoundEnd ο} {choice : Choice}

/-- Unless the run fails, an exchange appends a turn. -/
theorem turn (h : x.Leads a limits ms ending) (alive : ∀ e, ending ≠ .failed e) :
    Agent.Turn a x ms := by
  cases h with
  | unanswered => exact absurd rfl (alive _)
  | rejected rejection => exact .feedback rejection
  | overLimit => exact absurd rfl (alive _)
  | answered accepted final => exact .answer accepted (Message.hasToolCalls_eq_false.mp final)
  | undecoded accepted final undecodable =>
    exact .corrected accepted (Message.hasToolCalls_eq_false.mp final) undecodable
  | exhausted => exact absurd rfl (alive _)
  | @serviced _ _ e _ accepted calling serviced ends =>
    cases e with
    | none => exact .called accepted (Message.hasToolCalls_eq_true.mp calling) serviced.answered
    | some e => exact absurd ends (alive _)

/-- The calls of an accepted response are serviced, unless it took too many tokens. -/
theorem serviced_or_overLimit (h : x.Leads a limits ms ending)
    (accepted : x.choice? a = some choice) :
    (∃ ms e, Agent.Serviced a limits x.answer.cancels choice.message.toolCalls x.executions ms e ∧
      ∀ f, e = some f → ending = .failed (.run f)) ∨
    (x.executions = [] ∧ ∃ u l, x.usage? a = some u ∧
      limits.checkCompletionTokens u.completionTokens.toNat = .error l ∧
      ending = .failed (.run (.usageLimitExceeded l))) := by
  -- An answer has no calls, so servicing them is done at once.
  have idle_serviced : ∀ {c : Choice}, x.choice? a = some c → c.message.hasToolCalls = false →
      x.executions = [] →
      ∃ ms e, Agent.Serviced a limits x.answer.cancels choice.message.toolCalls x.executions ms e ∧
        ∀ f, e = some f → ending = .failed (.run f) := by
    intro c accepted' final idle
    obtain rfl := Option.some.inj (accepted.symm.trans accepted')
    rw [Message.hasToolCalls_eq_false.mp final, idle]
    exact ⟨[], none, .done _, by simp⟩
  cases h with
  | unanswered nothing =>
    rw [nothing] at accepted
    cases accepted
  | rejected rejection =>
    rw [choice?_of_rejection? rejection] at accepted
    cases accepted
  | overLimit _ counted crossed idle => exact .inr ⟨idle, _, _, counted, crossed, rfl⟩
  | answered accepted' final _ idle => exact .inl (idle_serviced accepted' final idle)
  | undecoded accepted' final _ idle => exact .inl (idle_serviced accepted' final idle)
  | exhausted accepted' final _ idle => exact .inl (idle_serviced accepted' final idle)
  | @serviced _ ms e _ accepted' _ serviced ends =>
    obtain rfl := Option.some.inj (accepted.symm.trans accepted')
    refine .inl ⟨ms, e, serviced, ?_⟩
    rintro f rfl
    exact ends

/-- Unless the run fails, every call of an accepted response was executed. -/
theorem executed (h : x.Leads a limits ms ending) (alive : ∀ e, ending ≠ .failed e)
    (accepted : x.choice? a = some choice) :
    x.executions.map Execution.call = choice.message.toolCalls := by
  rcases h.serviced_or_overLimit accepted with ⟨_, e, serviced, ends⟩ | ⟨-, u, l, -, -, ends⟩
  · cases e with
    | none => exact serviced.calls_eq
    | some e => exact absurd (ends e rfl) (alive _)
  · exact absurd ends (alive _)

end Exchange.Leads

namespace Agent

variable {δ σ ο : Type} {a : Agent δ σ ο} {limits : UsageLimits} {systemPrompt : Option String}
  {h final : List Message} {xs after : List (Exchange δ)} {x : Exchange δ}

/-! ## What a course shows -/

namespace Course

/-- A course that ends with an answer ends with an exchange whose response asks for no tool calls,
is decoded to the answer, and is the last message of the history. -/
theorem last_answered {output : ο} (c : Course a limits systemPrompt h xs (.ok output) final) :
    ∃ x, xs.getLast? = some x ∧ ∃ choice, x.choice? a = some choice ∧
      choice.message.toolCalls = [] ∧
      a.answer.decode choice.structuredContent choice.message = .ok output ∧
      final.getLast? = some choice.message := by
  generalize hoc : (Except.ok output : Except Error ο) = oc at c
  induction c with
  | stopped => cases hoc
  | failed => cases hoc
  | @answered h ms x output' request leads =>
    obtain rfl := Except.ok.inj hoc
    cases leads with
    | @answered choice _ accepted final decoded =>
      exact ⟨x, rfl, choice, accepted, Message.hasToolCalls_eq_false.mp final, decoded,
        List.getLast?_concat ..⟩
    | @serviced _ _ e _ _ _ _ ends => cases e <;> cases ends
  | @next h ms final x xs outcome request leads later ih =>
    obtain ⟨y, last, rest⟩ := ih hoc
    exact ⟨y, by rw [List.getLast?_cons, last, Option.getD_some], rest⟩

end Course

end Agent

end Colloquy
