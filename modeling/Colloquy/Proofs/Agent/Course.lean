import Colloquy.Proofs.Agent.Round

/-! # Courses of runs

A run is a sequence of exchanges, each of which continues the history where the one before left it.
`Course` says this of the exchanges that are still to come; the main statement, `Agent.run_course`,
is that the events, the outcome and the history of every run are those of a course that begins with
the run's opening. -/

namespace Colloquy

namespace Agent

variable {δ σ ο : Type}

/-- The exchanges that follow on some history, and the outcome and the history that they come to. -/
inductive Course (a : Agent δ σ ο) (limits : UsageLimits) (systemPrompt : Option String) :
    List Message → List (Exchange δ) → Except Error ο → List Message → Prop where
  /-- The run fails without another request. -/
  | stopped (h : List Message) (e : Error) : Course a limits systemPrompt h [] (.error e) h
  /-- The run fails in an exchange. -/
  | failed {h ms : List Message} {x : Exchange δ} {e : Error}
    (request : x.request = (a.request systemPrompt h).shaped)
    (leads : x.Leads a limits ms (.failed e)) :
    Course a limits systemPrompt h [x] (.error e) (h ++ ms)
  /-- An exchange brings the answer. -/
  | answered {h ms : List Message} {x : Exchange δ} {output : ο}
    (request : x.request = (a.request systemPrompt h).shaped)
    (leads : x.Leads a limits ms (.answered output)) :
    Course a limits systemPrompt h [x] (.ok output) (h ++ ms)
  /-- After an exchange the run goes on. -/
  | next {h ms final : List Message} {x : Exchange δ} {xs : List (Exchange δ)}
    {outcome : Except Error ο} (request : x.request = (a.request systemPrompt h).shaped)
    (leads : x.Leads a limits ms .again)
    (later : Course a limits systemPrompt (h ++ ms) xs outcome final) :
    Course a limits systemPrompt h (x :: xs) outcome final

/-- The history with which a run begins: `options.messages`, then the prompt. -/
def opening (options : RunOptions) : List Message :=
  options.messages ++ (options.prompt.map Message.user).toList

namespace Course

variable {a : Agent δ σ ο} {limits : UsageLimits} {systemPrompt : Option String}
  {h final : List Message} {xs before after : List (Exchange δ)} {x : Exchange δ}
  {outcome : Except Error ο}

/-- The conversation in a request for some history is that history. -/
theorem messages_of_request (request : x.request = (a.request systemPrompt h).shaped) :
    x.request.messages = h := by
  rw [request, ChatRequest.shaped_messages]
  rfl

end Course

/-- **`Agent.rounds` runs a course** from the history that they begin with. -/
theorem rounds_course (a : Agent δ σ ο) (options : RunOptions) (systemPrompt : Option String)
    (n : Nat) (p : Progress δ σ) :
    ∃ xs, (a.rounds options systemPrompt n p).2.events =
        p.events ++ xs.flatMap Exchange.events ∧
      Course a options.limits systemPrompt p.context.messages xs
        (a.rounds options systemPrompt n p).1
        (a.rounds options systemPrompt n p).2.context.messages := by
  induction n generalizing p with
  | zero => exact ⟨[], by simp [rounds], .stopped _ _⟩
  | succ n ih =>
    -- A round that goes on hands its place over to the induction hypothesis.
    have step := a.round_leads options systemPrompt p
    rw [rounds]
    generalize a.round options systemPrompt p = r at step
    obtain ⟨ending, q⟩ := r
    rcases step with ⟨rfl, e, rfl⟩ | ⟨x, ms, request, leads, events, messages⟩
    · exact ⟨[], by simp, .stopped _ _⟩
    · simp only at leads events messages
      cases ending with
      | again =>
        obtain ⟨xs, events', later⟩ := ih q
        rw [messages] at later
        refine ⟨x :: xs, ?_, .next request leads later⟩
        rw [events', events, List.flatMap_cons, List.append_assoc]
      | answered output =>
        exact ⟨[x], by simpa using events, messages ▸ .answered request leads⟩
      | failed e =>
        exact ⟨[x], by simpa using events, messages ▸ .failed request leads⟩

/-- **Every `Agent.run` runs a course** from its opening: its events are those of the exchanges, its
answer and its history are theirs, and a result carries the whole history. -/
theorem run_course (a : Agent δ σ ο) (deps : δ) (runId : String) (options : RunOptions)
    (cancelled : Bool) (world : σ) :
    ∃ xs, (a.run deps runId options cancelled world).2.events = xs.flatMap Exchange.events ∧
      Course a options.limits (SystemPrompt.join deps a.systemPrompts) (opening options) xs
        ((a.run deps runId options cancelled world).1.map RunResult.output)
        (a.run deps runId options cancelled world).2.context.messages ∧
      ∀ result, (a.run deps runId options cancelled world).1 = .ok result →
        result.messages = (a.run deps runId options cancelled world).2.context.messages := by
  rw [run]
  split
  · -- A run without a prompt and without history fails before its first round.
    exact ⟨[], rfl, .stopped _ _, fun _ h => by cases h⟩
  · obtain ⟨xs, events, course⟩ := a.rounds_course options
      (SystemPrompt.join deps a.systemPrompts) a.config.maxIterations.toNat
      (begin deps runId options cancelled world)
    generalize a.rounds options (SystemPrompt.join deps a.systemPrompts)
      a.config.maxIterations.toNat (begin deps runId options cancelled world) = r
      at events course
    obtain ⟨outcome, p⟩ := r
    refine ⟨xs, events, ?_, ?_⟩
    · cases outcome <;> exact course
    · intro result h
      cases outcome with
      | error => cases h
      | ok output =>
        obtain rfl := Except.ok.inj h
        rfl

end Agent

end Colloquy
