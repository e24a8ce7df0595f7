import Colloquy.Proofs.Agent.Trail

/-! # Cancelled runs

A run can be cancelled before it begins, while it waits for an answer, and while a tool is executed,
which may then be cut off or come to its result all the same.  `Agent.Halts` says what becomes of a
run that is cancelled; the main statement, `Agent.run_halts`, is that it holds of every run.  What
carries it is that each move needs a run that is not cancelled. -/

namespace Colloquy

/-- A request among the events of exchanges is that of one of them, and what comes before it are the
events of the exchanges before. -/
theorem Exchange.exists_split_of_requested {δ : Type} {xs : List (Exchange δ)}
    {before after : List (RunEvent δ)} {request : ChatRequest}
    {answer : Delivery (Except ProviderError ChatResponse)}
    (split : xs.flatMap Exchange.events = before ++ .requested request answer :: after) :
    ∃ xsBefore x xsAfter, xs = xsBefore ++ x :: xsAfter ∧ x.answer = answer ∧
      before = xsBefore.flatMap Exchange.events ∧
      after = x.executions.map Execution.event ++ xsAfter.flatMap Exchange.events := by
  obtain ⟨xsBefore, x, xsAfter, earlier, later, rfl, own, rfl, rfl⟩ := exists_split_flatMap split
  rw [Exchange.events] at own
  cases earlier with
  | nil =>
    obtain ⟨same, rfl⟩ := List.cons.inj own
    exact ⟨xsBefore, x, xsAfter, rfl, (RunEvent.requested.inj same).2, by simp, rfl⟩
  | cons e earlier =>
    -- The events of an exchange after its request are executions.
    obtain ⟨-, rest⟩ := List.cons.inj own
    have mem : .requested request answer ∈ x.executions.map Execution.event := by
      rw [rest]
      exact List.mem_append_cons_self
    obtain ⟨y, -, same⟩ := List.mem_map.mp mem
    cases same

namespace Standing.Sound

variable {δ σ : Type} {limits : UsageLimits} {beforehand : Bool} {s : Standing δ σ}

/-- **Nothing follows an event that cancels the run.** -/
theorem eq_nil_of_cancels (h : s.Sound limits beforehand) {before after : List (RunEvent δ)}
    {e : RunEvent δ} (split : s.events = before ++ e :: after) (cancels : e.cancels = true) :
    after = [] := by
  cases after with
  | nil => rfl
  | cons next after =>
    rw [← List.singleton_append, ← List.append_assoc] at split
    obtain ⟨-, quiet⟩ := h.calm _ next after split
    simp [cancels] at quiet

/-- A run that was cancelled beforehand has done nothing. -/
theorem events_eq_nil (h : s.Sound limits beforehand) (stopped : beforehand = true) :
    s.events = [] := by
  cases events : s.events with
  | nil => rfl
  | cons e after =>
    obtain ⟨running, -⟩ := h.calm [] e after events
    cases stopped.symm.trans running

end Standing.Sound

namespace Agent

variable {δ σ ο : Type}

/-- What a run that starts nothing more makes of a response that was delivered. -/
inductive TakesUp (a : Agent δ σ ο) (options : RunOptions)
    (response : Except ProviderError ChatResponse) (p final : Progress δ σ) :
    Except Error (RunResult ο) → Prop where
  /-- The response is the answer. -/
  | answered {output : ο}
    (taken : a.proceed options (Client.receive a.answer.format? response) p =
      (.answered output, final)) :
    TakesUp a options response p final (.ok (finish output final.context))
  /-- The run fails for the response. -/
  | failed {e : Error}
    (taken : a.proceed options (Client.receive a.answer.format? response) p =
      (.failed e, final)) :
    TakesUp a options response p final (.error e)
  /-- The response is fed back, and that was the last round. -/
  | capped
    (taken : a.proceed options (Client.receive a.answer.format? response) p = (.again, final)) :
    TakesUp a options response p final (.error (.run (.maxIterations a.config.maxIterations)))

/-- What becomes of a run that begins at some place if it is cancelled. -/
structure Halts (a : Agent δ σ ο) (options : RunOptions) (systemPrompt : Option String)
    (first : Progress δ σ) (outcome : Except Error (RunResult ο)) (final : Progress δ σ) :
    Prop where
  /-- All that a run does are moves, each of which leaves its event behind. -/
  moves : a.Moves options.limits first.standing final.standing
  /-- Once the run is cancelled, it makes no other move. -/
  last : ∀ before e after, final.events = before ++ e :: after → e.cancels = true → after = []
  /-- A run that is cancelled before it begins does nothing, and fails. -/
  beforehand : first.context.cancelled = true →
    final.standing = first.standing ∧ ∃ e, outcome = .error e
  /-- A run that is cancelled while a tool is executed fails, whatever that execution came to. -/
  duringTool : ∀ call context came, .executed call context came ∈ final.events →
    came.cancels = true → ∃ e, outcome = .error e
  /-- A run that is cancelled while it waits for an answer fails for that, or takes up the response
  of that request if it was delivered, without another move. -/
  duringRequest : ∀ before request answer after,
    final.events = before ++ .requested request answer :: after → answer.cancels = true →
    after = [] ∧
      (outcome = .error (.run .cancelled) ∨
        ∃ k p response, a.afterRounds options systemPrompt first k = some p ∧
          p.events = before ∧ (a.dispatch systemPrompt p).1 = answer ∧
          answer.value? = some response ∧
          (a.dispatch systemPrompt p).2.standing = final.standing ∧
          TakesUp a options response (a.dispatch systemPrompt p).2 final outcome)

section Halts

variable {a : Agent δ σ ο} {options : RunOptions} {systemPrompt : Option String}
  {limits : UsageLimits} {s t : Standing δ σ} {first final : Progress δ σ}
  {xs before after : List (Exchange δ)} {x : Exchange δ} {outcome : Except Error (RunResult ο)}

/-- Every move leaves one event behind. -/
theorem Move.events (h : a.Move limits s t) : ∃ e, t.events = s.events ++ [e] := by
  cases h with
  | request => exact ⟨_, rfl⟩
  | execution => exact ⟨_, rfl⟩

/-- Moves leave events behind. -/
theorem Moves.events (h : a.Moves limits s t) : s.events <+: t.events := by
  induction h with
  | refl => exact List.prefix_rfl
  | tail _ step ih =>
    obtain ⟨e, new⟩ := step.events
    rw [new]
    exact ih.trans (List.prefix_append _ _)

/-- **Where no more events were left behind, no move was made.** -/
theorem Moves.eq_of_length (h : a.Moves limits s t) (same : t.events.length = s.events.length) :
    t = s := by
  rcases Relation.ReflTransGen.cases_tail h with rfl | ⟨c, earlier, step⟩
  · rfl
  · obtain ⟨e, new⟩ := step.events
    have grown := (Moves.events earlier).length_le
    rw [new, List.length_append, List.length_singleton] at same
    omega

/-- Taking up a response is a sequence of moves. -/
theorem TakesUp.moves {response : Except ProviderError ChatResponse} {p : Progress δ σ}
    {run : Except Error (RunResult ο)} (h : TakesUp a options response p final run) :
    a.Moves options.limits p.standing final.standing := by
  have proceeds := a.moves_proceed options (Client.receive a.answer.format? response) p
  cases h with
  | answered taken => rwa [taken] at proceeds
  | failed taken => rwa [taken] at proceeds
  | capped taken => rwa [taken] at proceeds

/-- **A run that succeeds is not cancelled before its last request**, after which it executes
nothing. -/
theorem Conclusion.of_ok {result : RunResult ο}
    (h : Conclusion a options systemPrompt first xs outcome final)
    (success : outcome = .ok result) :
    ∃ (p : Progress δ σ) (request : ChatRequest)
      (answer : Delivery (Except ProviderError ChatResponse)),
      a.Moves options.limits first.standing p.standing ∧ p.context.cancelled = false ∧
        final.events = p.events ++ [.requested request answer] := by
  cases h with
  | unstarted | capped | idle | failed => cases success
  | @answered _ p _ x _ trail _ last =>
    obtain ⟨_, leads, -⟩ := last.leads
    have idle : x.executions = [] := by
      by_contra executed
      obtain ⟨_, _, failure, -, ends⟩ := leads.serviced_of_executed executed
      cases failure <;> cases ends
    refine ⟨p, x.request, x.answer, trail.moves, last.running, ?_⟩
    rw [last.events, Exchange.events, idle, List.map_nil]

/-- **What becomes of a run after its last exchange** if the run is cancelled by then. -/
theorem Conclusion.of_last
    (h : Conclusion a options systemPrompt first (before ++ [x]) outcome final)
    (stopped : final.context.cancelled = true) :
    ∃ p, Trail a options systemPrompt first before p ∧ (a.dispatch systemPrompt p).1 = x.answer ∧
      (outcome = .error (.run .cancelled) ∨ ∃ response, x.answer.value? = some response ∧
        TakesUp a options response (a.dispatch systemPrompt p).2 final outcome) := by
  obtain ⟨p, ending, q, trail, advance, sequel⟩ := h.advance
  refine ⟨p, trail, advance.answer.symm, ?_⟩
  cases delivery : x.answer.value? with
  | none =>
    obtain ⟨rfl, -⟩ := advance.of_undelivered delivery
    cases sequel with
    | failed _ _ failed => exact .inl failed
  | some response =>
    have taken := advance.of_delivered delivery
    cases sequel with
    | again _ ended =>
      obtain ⟨rfl, rfl | ⟨e, idle, failed⟩⟩ := ended rfl
      · exact .inr ⟨response, rfl, .capped taken⟩
      · cases idle with
        | cancelled => exact .inl failed
        | ceiling running => exact absurd (running.symm.trans stopped) nofun
    | answered _ place success =>
      subst place success
      exact .inr ⟨response, rfl, .answered taken⟩
    | failed _ place failed =>
      subst place failed
      exact .inr ⟨response, rfl, .failed taken⟩

end Halts

/-- **Every `Agent.run` halts when it is cancelled**: it starts nothing more, and unless it was
cancelled while it waited for an answer, it fails. -/
theorem run_halts (a : Agent δ σ ο) (deps : δ) (runId : String) (options : RunOptions)
    (cancelled : Bool) (world : σ) :
    Halts a options (SystemPrompt.join deps a.systemPrompts)
      (begin deps runId options cancelled world) (a.run deps runId options cancelled world).1
      (a.run deps runId options cancelled world).2 := by
  obtain ⟨xs, events, concludes⟩ := a.run_concludes deps runId options cancelled world
  have moves := a.moves_run deps runId options cancelled world
  generalize a.run deps runId options cancelled world = r at events concludes moves
  obtain ⟨outcome, final⟩ := r
  dsimp only at events concludes moves ⊢
  have start := Standing.Sound.start (δ := δ) options.limits cancelled world
  have sound := start.moves moves
  constructor
  case moves => exact moves
  case last =>
    intro before e after split cancels
    exact sound.eq_nil_of_cancels split cancels
  case beforehand =>
    intro stopped
    have none : final.events = [] := sound.events_eq_nil stopped
    refine ⟨moves.eq_of_length (congrArg List.length none), ?_⟩
    cases outcome with
    | error e => exact ⟨e, rfl⟩
    | ok result =>
      obtain ⟨_, _, _, _, _, split⟩ := concludes.of_ok rfl
      simp [none] at split
  case duringTool =>
    intro call context came mem cancels
    cases outcome with
    | error e => exact ⟨e, rfl⟩
    | ok result =>
      obtain ⟨p, _, _, earlier, running, split⟩ := concludes.of_ok rfl
      -- The execution came before the last request, and the run was not cancelled by then.
      have done : .executed call context came ∈ p.events := by
        rw [split, List.mem_append, List.mem_singleton] at mem
        rcases mem with done | same
        · exact done
        · cases same
      have quiet := (start.moves earlier).cancelled.symm.trans running
      rw [Bool.or_eq_false_iff, List.any_eq_false] at quiet
      exact absurd cancels (quiet.2 _ done)
  case duringRequest =>
    intro before request answer after split cancels
    obtain rfl := sound.eq_nil_of_cancels split cancels
    refine ⟨rfl, ?_⟩
    obtain ⟨earlier, x, later, rfl, rfl, rfl, none⟩ :=
      Exchange.exists_split_of_requested (events.symm.trans split)
    obtain rfl : later = [] := by
      cases later with
      | nil => rfl
      | cons y later => simp [Exchange.events] at none
    have stopped : final.context.cancelled = true := by
      refine sound.cancelled.trans ?_
      simp [Progress.standing, split, RunEvent.cancels, cancels]
    obtain ⟨p, trail, answer, halted | ⟨response, delivery, takesUp⟩⟩ :=
      concludes.of_last stopped
    · exact .inl halted
    · have place : p.events = earlier.flatMap Exchange.events := trail.events
      -- Taking up the response leaves no other event behind.
      have still := takesUp.moves.eq_of_length (by simp [Progress.standing, split, place])
      exact .inr ⟨_, p, response, trail.afterRounds, place, answer, delivery, still.symm, takesUp⟩

/-- An agent whose model calls a tool twice at once, and whose tool cancels the run and comes to a
result. -/
def interrupted : Agent Unit Unit String where
  complete _ world :=
    (.ended (.ok (.single "stage"
      ⟨.assistant, [], [.new "c" "t" [], .new "d" "t" []], none⟩ none)), world)
  model := "stage"
  systemPrompts := []
  tools := [⟨⟨"t", "", .null, none⟩, none, fun _ _ world =>
    (.endedCancelled (.ok (.text "done")), world)⟩]
  config := .standard
  toolChoice := none
  answer := .text id

example :
    let (outcome, p) := interrupted.run () "r" (.ofPrompt "Is it?") false ()
    p.executions.map (fun x => x.call.id) = ["c"] ∧
      outcome.failure? = some (.run .cancelled) := by
  decide +kernel

end Agent

end Colloquy
