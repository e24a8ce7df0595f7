import Colloquy.Proofs.Agent.Course
import Colloquy.Proofs.Agent.Moves

/-! # Trails of runs

Round by round, a run leaves a trail of exchanges: `Agent.Advance` is a round that sends a request,
`Agent.Trail` the rounds of a run that went on so far, and `Agent.Conclusion` how a run can come to
its end after them.  The main statements are `Agent.run_concludes`, that every run comes to an end
in one of these ways, and `Agent.Conclusion.advance`, that each exchange of a run stands for a round
of it and what becomes of the run afterwards. -/

namespace Colloquy

/-- Where an exchange executed calls, servicing them decided how its round ended. -/
theorem Exchange.Leads.serviced_of_executed {δ σ ο : Type} {a : Agent δ σ ο}
    {limits : UsageLimits} {x : Exchange δ} {ms : List Message} {ending : RoundEnd ο}
    (leads : x.Leads a limits ms ending) (executed : x.executions ≠ []) :
    ∃ calls replies failure,
      Agent.Serviced a limits x.answer.cancels calls x.executions replies failure ∧
        ending = .ofFailure? failure := by
  cases leads with
  | serviced _ _ serviced ends => exact ⟨_, _, _, serviced, ends⟩
  | unanswered _ idle => exact absurd idle executed
  | rejected _ idle => exact absurd idle executed
  | overLimit _ _ _ idle => exact absurd idle executed
  | answered _ _ _ idle => exact absurd idle executed
  | undecoded _ _ _ idle => exact absurd idle executed
  | exhausted _ _ _ idle => exact absurd idle executed

namespace Agent

variable {δ σ ο : Type}

/-! ## One round -/

/-- A round that takes a run from one place to another by an exchange, and how it ends. -/
structure Advance (a : Agent δ σ ο) (options : RunOptions) (systemPrompt : Option String)
    (p : Progress δ σ) (x : Exchange δ) (ending : RoundEnd ο) (q : Progress δ σ) : Prop where
  /-- The run is not cancelled. -/
  running : p.context.cancelled = false
  /-- The ceiling of requests has room for one. -/
  allowed : options.limits.checkBeforeRequest p.context.requests = .ok ()
  /-- The request carries the history. -/
  request : x.request = (a.request systemPrompt p.context.messages).shaped
  /-- The answer is the provider's. -/
  answer : x.answer = (a.dispatch systemPrompt p).1
  /-- The round goes from the one place to the other. -/
  round : a.round options systemPrompt p = (ending, q)
  /-- The exchange is what the round did. -/
  events : q.events = p.events ++ x.events
  /-- It appends to the history what the exchange leads to. -/
  leads : ∃ ms, x.Leads a options.limits ms ending ∧
    q.context.messages = p.context.messages ++ ms

/-- Why `Agent.round` sends nothing: the run is cancelled, or `checkBeforeRequest` refuses. -/
inductive Idle (options : RunOptions) (p : Progress δ σ) : RunError → Prop where
  /-- The run is cancelled. -/
  | cancelled (stopped : p.context.cancelled = true) : Idle options p .cancelled
  /-- The ceiling of requests is reached. -/
  | ceiling {l : UsageLimitExceeded} (running : p.context.cancelled = false)
    (reached : options.limits.checkBeforeRequest p.context.requests = .error l) :
    Idle options p (.usageLimitExceeded l)

/-- A round that sends nothing fails and leaves the run where it is. -/
theorem Idle.round {options : RunOptions} {p : Progress δ σ} {e : RunError}
    (h : Idle options p e) (a : Agent δ σ ο) (systemPrompt : Option String) :
    a.round options systemPrompt p = (.failed (.run e), p) := by
  cases h with
  | cancelled stopped => rw [Agent.round, if_pos stopped]
  | ceiling running reached => rw [Agent.round, if_neg (by simp [running]), reached]

/-- **`Agent.round` either sends nothing and fails, or is an advance.** -/
theorem idle_or_advance (a : Agent δ σ ο) (options : RunOptions) (systemPrompt : Option String)
    (p : Progress δ σ) :
    (∃ e, Idle options p e ∧ a.round options systemPrompt p = (.failed (.run e), p)) ∨
      ∃ x ending q, a.Advance options systemPrompt p x ending q := by
  have case := a.roundCase_round options systemPrompt p
  generalize hr : a.round options systemPrompt p = r at case
  let request := (a.request systemPrompt p.context.messages).shaped
  cases case with
  | cancelled stopped => exact .inl ⟨_, .cancelled stopped, rfl⟩
  | ceiling running reached => exact .inl ⟨_, .ceiling running reached, rfl⟩
  | undelivered running allowed lost =>
    have nothing : Exchange.choice? a ⟨request, (a.dispatch systemPrompt p).1, []⟩ = none := by
      rw [Exchange.choice?, Exchange.received?, lost]
      rfl
    have messages : (a.dispatch systemPrompt p).2.context.messages = p.context.messages ++ [] :=
      (List.append_nil _).symm
    exact .inr ⟨⟨request, (a.dispatch systemPrompt p).1, []⟩, _, _,
      { running, allowed, request := rfl, answer := rfl, round := hr, events := rfl
        leads := ⟨[], .unanswered nothing rfl, messages⟩ }⟩
  | @delivered response running allowed delivery =>
    obtain ⟨xs, ms, leads, events, messages⟩ :=
      @proceed_leads δ σ ο a options request _ response _ delivery
        (a.dispatch_cancelled systemPrompt running)
    generalize a.proceed options (Client.receive a.answer.format? response)
      (a.dispatch systemPrompt p).2 = r at hr leads events messages
    rw [dispatch_events, List.append_assoc] at events
    exact .inr ⟨⟨request, (a.dispatch systemPrompt p).1, xs⟩, _, _,
      { running, allowed, request := rfl, answer := rfl, round := hr, events := events
        leads := ⟨ms, leads, messages⟩ }⟩

namespace Advance

variable {a : Agent δ σ ο} {options : RunOptions} {systemPrompt : Option String}
  {p q : Progress δ σ} {x : Exchange δ} {ending : RoundEnd ο}

/-- The conversation in the request is the history. -/
theorem messages (h : a.Advance options systemPrompt p x ending q) :
    x.request.messages = p.context.messages :=
  Course.messages_of_request h.request

/-- An advance is a sequence of moves. -/
theorem moves (h : a.Advance options systemPrompt p x ending q) :
    a.Moves options.limits p.standing q.standing := by
  have := a.moves_round options systemPrompt p
  rwa [h.round] at this

/-- The executions of an advance are those of its exchange. -/
theorem executions (h : a.Advance options systemPrompt p x ending q) :
    q.executions = p.executions ++ x.executions := by
  have own : (x.executions.map Execution.event).filterMap RunEvent.execution? = x.executions := by
    rw [List.filterMap_map]
    exact List.filterMap_some
  rw [Progress.executions, h.events, List.filterMap_append, Exchange.events, List.filterMap_cons,
    own]
  rfl

/-- **An advance without an answer** is one that was cancelled meanwhile, and the run fails. -/
theorem of_undelivered (h : a.Advance options systemPrompt p x ending q)
    (lost : x.answer.value? = none) :
    ending = .failed (.run .cancelled) ∧ q = (a.dispatch systemPrompt p).2 := by
  have round := h.round
  rw [Agent.round, if_neg (by simp [h.running]), h.allowed] at round
  rw [h.answer] at lost
  simp only [lost] at round
  exact ⟨(congrArg Prod.fst round).symm, (congrArg Prod.snd round).symm⟩

/-- **An advance with an answer goes on from it.** -/
theorem of_delivered (h : a.Advance options systemPrompt p x ending q)
    {response : Except ProviderError ChatResponse} (delivery : x.answer.value? = some response) :
    a.proceed options (Client.receive a.answer.format? response) (a.dispatch systemPrompt p).2 =
      (ending, q) := by
  have round := h.round
  rw [Agent.round, if_neg (by simp [h.running]), h.allowed] at round
  rw [h.answer] at delivery
  simpa only [delivery] using round

/-- **What an advance can come to**: either there was no answer, or one of the cases of going on
from what the client made of it. -/
theorem cases (h : a.Advance options systemPrompt p x ending q) :
    (x.answer.value? = none ∧ ending = .failed (.run .cancelled) ∧
      q = (a.dispatch systemPrompt p).2) ∨
    ∃ received, x.received? a = some received ∧ (∀ e, received ≠ .error (.run e)) ∧
      ProceedCase a options received (a.dispatch systemPrompt p).2 (ending, q) := by
  cases delivery : x.answer.value? with
  | none => exact .inl ⟨rfl, h.of_undelivered delivery⟩
  | some response =>
    refine .inr ⟨Client.receive a.answer.format? response, ?_, Client.receive_ne_run _ _, ?_⟩
    · rw [Exchange.received?, delivery, Option.map_some]
    · rw [← h.of_delivered delivery]
      exact a.proceedCase_proceed options _ _

end Advance

/-! ## The rounds of a run -/

/-- The rounds of a run that went on so far: the exchanges, and where they have taken it. -/
inductive Trail (a : Agent δ σ ο) (options : RunOptions) (systemPrompt : Option String)
    (first : Progress δ σ) : List (Exchange δ) → Progress δ σ → Prop where
  /-- The run begins. -/
  | start : Trail a options systemPrompt first [] first
  /-- A round goes on. -/
  | next {xs : List (Exchange δ)} {p q : Progress δ σ} {x : Exchange δ}
    (earlier : Trail a options systemPrompt first xs p)
    (step : a.Advance options systemPrompt p x .again q) :
    Trail a options systemPrompt first (xs ++ [x]) q

/-- Where a run stands after some rounds from a place, if all of them went on. -/
def afterRounds (a : Agent δ σ ο) (options : RunOptions) (systemPrompt : Option String)
    (first : Progress δ σ) : Nat → Option (Progress δ σ)
  | 0 => some first
  | n + 1 =>
    match a.afterRounds options systemPrompt first n with
    | none => none
    | some p =>
      match a.round options systemPrompt p with
      | (.again, q) => some q
      | _ => none

/-- How a run comes to its end: the exchanges of all its rounds, the outcome, and where it ends. -/
inductive Conclusion (a : Agent δ σ ο) (options : RunOptions) (systemPrompt : Option String)
    (first : Progress δ σ) :
    List (Exchange δ) → Except Error (RunResult ο) → Progress δ σ → Prop where
  /-- There is nothing to start from. -/
  | unstarted (empty : options.prompt = none ∧ options.messages = []) (text : String) :
    Conclusion a options systemPrompt first [] (.error (.config text)) first
  /-- There were as many rounds as there may be, and all of them went on. -/
  | capped {xs : List (Exchange δ)} {p : Progress δ σ}
    (trail : Trail a options systemPrompt first xs p)
    (full : xs.length = a.config.maxIterations.toNat) :
    Conclusion a options systemPrompt first xs
      (.error (.run (.maxIterations a.config.maxIterations))) p
  /-- The next round sends nothing. -/
  | idle {xs : List (Exchange δ)} {p : Progress δ σ} {e : RunError}
    (trail : Trail a options systemPrompt first xs p)
    (early : xs.length < a.config.maxIterations.toNat) (idle : Idle options p e) :
    Conclusion a options systemPrompt first xs (.error (.run e)) p
  /-- The next round brings the answer. -/
  | answered {xs : List (Exchange δ)} {p q : Progress δ σ} {x : Exchange δ} {output : ο}
    (trail : Trail a options systemPrompt first xs p)
    (early : xs.length < a.config.maxIterations.toNat)
    (last : a.Advance options systemPrompt p x (.answered output) q) :
    Conclusion a options systemPrompt first (xs ++ [x]) (.ok (finish output q.context)) q
  /-- The next round fails. -/
  | failed {xs : List (Exchange δ)} {p q : Progress δ σ} {x : Exchange δ} {e : Error}
    (trail : Trail a options systemPrompt first xs p)
    (early : xs.length < a.config.maxIterations.toNat)
    (last : a.Advance options systemPrompt p x (.failed e) q) :
    Conclusion a options systemPrompt first (xs ++ [x]) (.error e) q

/-- The history after an exchange: the next request's, or the last one if there is none. -/
def nextHistory (after : List (Exchange δ)) (last : List Message) : List Message :=
  match after with
  | [] => last
  | x :: _ => x.request.messages

/-- What becomes of a run after an exchange that took it to some place. -/
inductive Sequel (a : Agent δ σ ο) (options : RunOptions) (after : List (Exchange δ))
    (outcome : Except Error (RunResult ο)) (final q : Progress δ σ) : RoundEnd ο → Prop where
  /-- The round went on: the next request continues the history, or there is none because the run
  was stopped before it. -/
  | again (history : nextHistory after final.context.messages = q.context.messages)
    (stopped : after = [] → q = final ∧
      (outcome = .error (.run (.maxIterations a.config.maxIterations)) ∨
        ∃ e, Idle options q e ∧ outcome = .error (.run e))) :
    Sequel a options after outcome final q .again
  /-- The run is over and has an answer. -/
  | answered {output : ο} (last : after = []) (place : q = final)
    (success : outcome = .ok (finish output q.context)) :
    Sequel a options after outcome final q (.answered output)
  /-- The run is over and has failed. -/
  | failed {e : Error} (last : after = []) (place : q = final) (failure : outcome = .error e) :
    Sequel a options after outcome final q (.failed e)

section Trail

variable {a : Agent δ σ ο} {options : RunOptions} {systemPrompt : Option String}
  {first p q final : Progress δ σ} {xs before after : List (Exchange δ)} {x : Exchange δ}
  {outcome : Except Error (RunResult ο)}

/-! ### What a trail leaves -/

/-- A trail leaves the events of its exchanges. -/
theorem Trail.events (h : Trail a options systemPrompt first xs p) :
    p.events = first.events ++ xs.flatMap Exchange.events := by
  induction h with
  | start => simp
  | next _ step ih => simp [step.events, ih]

/-- A trail is a sequence of moves. -/
theorem Trail.moves (h : Trail a options systemPrompt first xs p) :
    a.Moves options.limits first.standing p.standing := by
  induction h with
  | start => exact .refl
  | next _ step ih => exact ih.trans step.moves

/-- A conclusion leaves the events of its exchanges. -/
theorem Conclusion.events (h : Conclusion a options systemPrompt first xs outcome final) :
    final.events = first.events ++ xs.flatMap Exchange.events := by
  cases h with
  | unstarted => simp
  | capped trail => exact trail.events
  | idle trail => exact trail.events
  | answered trail _ last => simp [last.events, trail.events]
  | failed trail _ last => simp [last.events, trail.events]

/-- A result says where the run ended. -/
theorem Conclusion.eq_finish {result : RunResult ο}
    (h : Conclusion a options systemPrompt first xs outcome final)
    (success : outcome = .ok result) :
    result = finish result.output final.context := by
  cases h with
  | unstarted | capped | idle | failed => cases success
  | answered =>
    obtain rfl := Except.ok.inj success
    rfl

/-! ### Rounds and trails -/

/-- After its rounds a trail is where the run stands then. -/
theorem Trail.afterRounds (h : Trail a options systemPrompt first xs p) :
    a.afterRounds options systemPrompt first xs.length = some p := by
  induction h with
  | start => rfl
  | next _ step ih =>
    rw [List.length_append, List.length_singleton, Agent.afterRounds, ih]
    simp only [step.round]

/-- **`Agent.rounds` comes to an end** after the trail that led to them. -/
theorem Trail.rounds_concludes (h : Trail a options systemPrompt first xs p) {n : Nat}
    (left : xs.length + n = a.config.maxIterations.toNat) :
    ∃ ys, Conclusion a options systemPrompt first ys
      ((a.rounds options systemPrompt n p).1.map fun output =>
        finish output (a.rounds options systemPrompt n p).2.context)
      (a.rounds options systemPrompt n p).2 := by
  induction n generalizing xs p with
  | zero => exact ⟨xs, .capped h left⟩
  | succ n ih =>
    have early : xs.length < a.config.maxIterations.toNat := by omega
    rw [rounds]
    rcases a.idle_or_advance options systemPrompt p with ⟨e, idle, failed⟩ | ⟨x, ending, q, step⟩
    · rw [failed]
      exact ⟨xs, .idle h early idle⟩
    · rw [step.round]
      cases ending with
      | again => exact ih (h.next step) (by simp; omega)
      | answered output => exact ⟨xs ++ [x], .answered h early step⟩
      | failed e => exact ⟨xs ++ [x], .failed h early step⟩

/-! ### One exchange among others -/

/-- Where there is another request, the history after an exchange does not depend on the last. -/
theorem nextHistory_concat (after : List (Exchange δ)) (x : Exchange δ) (last : List Message) :
    nextHistory (after ++ [x]) last = nextHistory after x.request.messages := by
  cases after <;> rfl

/-- Each exchange of a trail stands for a round that went on, which the next request continues. -/
theorem Trail.advance (h : Trail a options systemPrompt first (before ++ x :: after) p) :
    ∃ p' q, Trail a options systemPrompt first before p' ∧
      a.Advance options systemPrompt p' x .again q ∧
      nextHistory after p.context.messages = q.context.messages ∧ (after = [] → q = p) := by
  generalize hxs : before ++ x :: after = xs at h
  induction h generalizing after with
  | start => simp at hxs
  | @next xs p q y earlier step ih =>
    rcases split_concat hxs.symm with ⟨rfl, rfl, rfl⟩ | ⟨after, rfl, rfl⟩
    · exact ⟨p, q, earlier, step, rfl, fun _ => rfl⟩
    · obtain ⟨p', q', trail, advance, history, -⟩ := ih rfl
      refine ⟨p', q', trail, advance, ?_, by simp⟩
      rw [nextHistory_concat, step.messages, history]

/-- **Each exchange of a run stands for a round of it** after those before it, and the rest of the
run follows from how that round ended. -/
theorem Conclusion.advance
    (h : Conclusion a options systemPrompt first (before ++ x :: after) outcome final) :
    ∃ p ending q, Trail a options systemPrompt first before p ∧
      a.Advance options systemPrompt p x ending q ∧
      Sequel a options after outcome final q ending := by
  generalize hxs : before ++ x :: after = xs at h
  -- An exchange before the last one is of the trail, and the last one continues the history.
  have earlier : ∀ {xs : List (Exchange δ)} {p q : Progress δ σ} {y : Exchange δ}
      {ending : RoundEnd ο} {rest : List (Exchange δ)},
      Trail a options systemPrompt first xs p → a.Advance options systemPrompt p y ending q →
      xs = before ++ x :: rest →
      ∃ p ending q, Trail a options systemPrompt first before p ∧
        a.Advance options systemPrompt p x ending q ∧
        Sequel a options (rest ++ [y]) outcome final q ending := by
    rintro xs p q y ending rest trail last rfl
    obtain ⟨p', q', trail', advance, history, -⟩ := trail.advance
    refine ⟨p', _, q', trail', advance, .again ?_ (by simp)⟩
    rw [nextHistory_concat, last.messages, history]
  cases h with
  | unstarted => simp at hxs
  | capped trail =>
    subst hxs
    obtain ⟨p, q, trail', advance, history, last⟩ := trail.advance
    exact ⟨p, _, q, trail', advance, .again history fun none => ⟨last none, .inl rfl⟩⟩
  | @idle _ _ e trail _ idle =>
    subst hxs
    obtain ⟨p, q, trail', advance, history, last⟩ := trail.advance
    refine ⟨p, _, q, trail', advance, .again history fun none => ⟨last none, .inr ⟨e, ?_, rfl⟩⟩⟩
    rwa [last none]
  | answered trail _ last =>
    rcases split_concat hxs.symm with ⟨rfl, rfl, rfl⟩ | ⟨rest, rfl, place⟩
    · exact ⟨_, _, _, trail, last, .answered rfl rfl rfl⟩
    · exact earlier trail last place
  | failed trail _ last =>
    rcases split_concat hxs.symm with ⟨rfl, rfl, rfl⟩ | ⟨rest, rfl, place⟩
    · exact ⟨_, _, _, trail, last, .failed rfl rfl rfl⟩
    · exact earlier trail last place

end Trail

/-- **Every `Agent.run` comes to an end** after the exchanges that its events consist of. -/
theorem run_concludes (a : Agent δ σ ο) (deps : δ) (runId : String) (options : RunOptions)
    (cancelled : Bool) (world : σ) :
    ∃ xs, (a.run deps runId options cancelled world).2.events = xs.flatMap Exchange.events ∧
      Conclusion a options (SystemPrompt.join deps a.systemPrompts)
        (begin deps runId options cancelled world) xs
        (a.run deps runId options cancelled world).1
        (a.run deps runId options cancelled world).2 := by
  rw [run]
  split
  · next empty =>
    rw [Option.isNone_iff_eq_none, List.isEmpty_iff] at empty
    exact ⟨[], rfl, .unstarted empty _⟩
  · have first : Trail a options (SystemPrompt.join deps a.systemPrompts)
        (begin deps runId options cancelled world) [] (begin deps runId options cancelled world) :=
      .start
    obtain ⟨xs, concludes⟩ := first.rounds_concludes (Nat.zero_add a.config.maxIterations.toNat)
    exact ⟨xs, concludes.events, concludes⟩

end Agent

end Colloquy
