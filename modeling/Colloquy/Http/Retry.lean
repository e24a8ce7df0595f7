import Colloquy.Error
import Colloquy.Http.Exchange

/-! # Retries

`RetryPolicy.run` repeats an attempt while it fails for a passing reason, at most `maxRetries` times
and within `totalTimeout`.  A run keeps a list of what happened, `RetryEvent`.  It has no outcome if
a time on the way is out of range, since the program is stopped then. -/

namespace Colloquy.Http

/-- How passing failures are retried. -/
structure RetryPolicy where
  /-- Retries after the first attempt. -/
  maxRetries : UInt32
  /-- Time for one attempt to get the head of a reply. -/
  attemptTimeout : Duration
  /-- Time for all attempts together with the waits between them. -/
  totalTimeout : Duration
  /-- The first wait; it doubles with every retry. -/
  baseDelay : Duration
deriving DecidableEq, Repr

/-- Something that happened in a run of attempts. -/
inductive RetryEvent (α : Type) where
  /-- An attempt was made within a time, and this came of it. -/
  | attempted (timeout : Duration) (outcome : Except ProviderError α)
  /-- Some time passed before the next attempt. -/
  | waited (duration : Duration)

/-- A run of attempts. -/
structure RetryRun (α σ : Type) where
  /-- What came of it; `none` if the program was stopped, `Clock.stop`. -/
  outcome : Option (Except ProviderError α)
  /-- What happened, in order. -/
  events : List (RetryEvent α)
  /-- The world afterwards. -/
  world : σ

namespace RetryRun

variable {α σ : Type}

/-- What came of a run, as its caller gets it.  In a stopped program nobody does, so what stands for
the outcome there says nothing. -/
def answer (r : RetryRun α σ) : Except ProviderError α :=
  r.outcome.getD (.error (.timeout "time out of range"))

end RetryRun

namespace RetryPolicy

variable {α σ : Type}

/-- Two retries, a minute for an attempt and five for all, half a second of first wait. -/
def standard : RetryPolicy := ⟨2, .ofSeconds 60, .ofSeconds 300, .ofMilliseconds 500⟩

/-- The wait after attempt number `attempt`, counting from zero: the seconds that the provider names,
or else `baseDelay` times `2 ^ attempt`, where the factor stays within 32 bits and the product may be
out of range. -/
def delay? (p : RetryPolicy) (attempt : Nat) : ProviderError → Option Duration
  | .rateLimited secs => some (.ofSeconds secs)
  | _ => p.baseDelay.scale? (min (Nat.pow 2 attempt) 4294967295)

/-- The failure of a run whose time is up. -/
def gaveUp (p : RetryPolicy) : ProviderError :=
  .timeout s!"gave up after {p.totalTimeout.wholeSeconds}s"

/-- Attempts until `deadline`, with `retries` left and `failed` attempts before: an attempt has
`min attemptTimeout` of the time left, and another one follows a passing failure after `delay?`, if
that is less than the time left. -/
def attempts (p : RetryPolicy) (c : Clock σ) (attempt : Duration → σ → Except ProviderError α × σ)
    (deadline : Instant) : (retries failed : Nat) → σ → RetryRun α σ
  | retries, failed, world =>
    let (now, world) := c.now world
    if now.timeTo deadline = .zero then ⟨some (.error p.gaveUp), [], world⟩
    else
      let timeout := min p.attemptTimeout (now.timeTo deadline)
      let (outcome, world) := attempt timeout world
      let event := RetryEvent.attempted timeout outcome
      match outcome, retries with
      | .ok a, _ => ⟨some (.ok a), [event], world⟩
      | .error e, 0 => ⟨some (.error e), [event], world⟩
      | .error e, retries + 1 =>
        if !e.isTransient then ⟨some (.error e), [event], world⟩
        else
          match p.delay? failed e with
          | none => ⟨none, [event], c.stop world⟩
          | some delay =>
            let (now, world) := c.now world
            if now.timeTo deadline ≤ delay then ⟨some (.error e), [event], world⟩
            else
              let next := p.attempts c attempt deadline retries (failed + 1) (c.wait delay world)
              { next with events := event :: .waited delay :: next.events }

/-- A run of attempts that starts now and has `totalTimeout`. -/
def run (p : RetryPolicy) (c : Clock σ) (attempt : Duration → σ → Except ProviderError α × σ)
    (world : σ) : RetryRun α σ :=
  let (now, world) := c.now world
  match now.after? p.totalTimeout with
  | none => ⟨none, [], c.stop world⟩
  | some deadline => p.attempts c attempt deadline p.maxRetries.toNat 0 world

end RetryPolicy

end Colloquy.Http
