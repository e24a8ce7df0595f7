import Colloquy.Http.Retry

/-! # Runs of attempts

A run is a number of setbacks, each an attempt that failed with a wait after it, and then its end.
`Course` says what they do to the world, and `RetryPolicy.Keeps` what the policy allows: which
failures lead to a wait, how long that is, and for what reasons the run ends.  The main statement is
`RetryPolicy.follows_run`: every run is such a course and keeps to the policy, unless its deadline
is no `Instant`.  `RetryPolicy.Keeps.returns` says when such a run has an outcome. -/

namespace Colloquy

/-- Failures that may pass. -/
inductive ProviderError.Passing : ProviderError → Prop where
  /-- The provider asks to slow down. -/
  | rateLimited (secs : UInt64) : Passing (.rateLimited secs)
  /-- The provider did not answer in time. -/
  | timeout (text : String) : Passing (.timeout text)
  /-- The provider could not be reached. -/
  | network (text : String) : Passing (.network text)
  /-- The provider is at fault itself. -/
  | api {status : UInt16} (text : String) (fault : 500 ≤ status.toNat) : Passing (.api status text)

/-- **`isTransient` tells the failures that may pass.** -/
theorem ProviderError.isTransient_iff {e : ProviderError} : e.isTransient = true ↔ e.Passing := by
  constructor
  · intro h
    cases e with
    | rateLimited secs => exact .rateLimited secs
    | timeout text => exact .timeout text
    | network text => exact .network text
    | api status text => exact .api text (UInt16.le_iff_toNat_le.mp (of_decide_eq_true h))
    | _ => cases h
  · intro h
    cases h with
    | api text fault => exact decide_eq_true (UInt16.le_iff_toNat_le.mpr fault)
    | _ => rfl

namespace Http

variable {α σ : Type}

/-! ## What happens in a run -/

/-- An attempt that failed, and the wait after it. -/
structure Setback where
  /-- When the attempt began. -/
  start : Instant
  /-- The time that it had. -/
  timeout : Duration
  /-- How it failed. -/
  error : ProviderError
  /-- When it had failed. -/
  stop : Instant
  /-- The wait. -/
  wait : Duration

/-- How a run ends. -/
inductive Finish (α : Type) where
  /-- At some time, without another attempt. -/
  | late (now : Instant)
  /-- With an attempt that began at some time and had some time, after which the clock may have been
  read once more. -/
  | attempt (start : Instant) (timeout : Duration) (outcome : Except ProviderError α)
    (stop : Option Instant)
  /-- With an attempt that failed, after which the program is stopped. -/
  | stopped (start : Instant) (timeout : Duration) (error : ProviderError)

/-- What a run leaves behind, `RetryRun.events`. -/
def record (setbacks : List Setback) (finish : Finish α) : List (RetryEvent α) :=
  (setbacks.flatMap fun s => [.attempted s.timeout (.error s.error), .waited s.wait]) ++
    match finish with
    | .late _ => []
    | .attempt _ timeout outcome _ => [.attempted timeout outcome]
    | .stopped _ timeout error => [.attempted timeout (.error error)]

/-- How many attempts are made. -/
def attemptsMade (setbacks : List Setback) (finish : Finish α) : Nat :=
  setbacks.length +
    match finish with
    | .late _ => 0
    | .attempt .. => 1
    | .stopped .. => 1

/-- What a run does to the world, where `Tries` says what an attempt that has some time comes to. -/
inductive Course (c : Clock σ) (Tries : Duration → σ → Except ProviderError α → σ → Prop) :
    σ → List Setback → Finish α → σ → Prop where
  /-- The clock is read, and that is all. -/
  | late {world world' : σ} {now : Instant} (looks : c.now world = (now, world')) :
    Course c Tries world [] (.late now) world'
  /-- An attempt is made, and that is all. -/
  | attempt {world world₁ world' : σ} {start : Instant} {timeout : Duration}
    {outcome : Except ProviderError α} (looks : c.now world = (start, world₁))
    (tries : Tries timeout world₁ outcome world') :
    Course c Tries world [] (.attempt start timeout outcome none) world'
  /-- An attempt is made, and the clock is read once more. -/
  | timed {world world₁ world₂ world' : σ} {start stop : Instant} {timeout : Duration}
    {outcome : Except ProviderError α} (looks : c.now world = (start, world₁))
    (tries : Tries timeout world₁ outcome world₂) (looksAgain : c.now world₂ = (stop, world')) :
    Course c Tries world [] (.attempt start timeout outcome (some stop)) world'
  /-- An attempt is made in vain, and the program is stopped. -/
  | stopped {world world₁ world₂ : σ} {start : Instant} {timeout : Duration}
    {error : ProviderError} (looks : c.now world = (start, world₁))
    (tries : Tries timeout world₁ (.error error) world₂) :
    Course c Tries world [] (.stopped start timeout error) (c.stop world₂)
  /-- An attempt is made, the clock is read once more, and after a wait the run goes on. -/
  | setback {world world₁ world₂ world₃ world' : σ} {s : Setback} {setbacks : List Setback}
    {finish : Finish α} (looks : c.now world = (s.start, world₁))
    (tries : Tries s.timeout world₁ (.error s.error) world₂)
    (looksAgain : c.now world₂ = (s.stop, world₃))
    (later : Course c Tries (c.wait s.wait world₃) setbacks finish world') :
    Course c Tries world (s :: setbacks) finish world'

/-! ## What a policy allows -/

namespace RetryPolicy

variable {p : RetryPolicy} {deadline : Instant}

/-- The nanoseconds of the wait after a failed attempt of some number, counting from zero; they need
not be a `Duration`. -/
inductive Pause (p : RetryPolicy) (number : Nat) : ProviderError → Nat → Prop where
  /-- A provider that asks to slow down names the wait. -/
  | asked (secs : UInt64) : Pause p number (.rateLimited secs) (secs.toNat * 1000000000)
  /-- Otherwise the first wait doubles with every attempt, -/
  | doubled {e : ProviderError} (unasked : ∀ secs, e ≠ .rateLimited secs)
    (small : Nat.pow 2 number < 4294967296) :
    Pause p number e (p.baseDelay.nanos * Nat.pow 2 number)
  /-- as long as the factor fits a word of 32 bits. -/
  | largest {e : ProviderError} (unasked : ∀ secs, e ≠ .rateLimited secs)
    (large : 4294967296 ≤ Nat.pow 2 number) : Pause p number e (p.baseDelay.nanos * 4294967295)

/-- `delay?` is the wait, if that is a `Duration`. -/
theorem pause_delay? (p : RetryPolicy) (number : Nat) (e : ProviderError) :
    ∃ n, p.Pause number e n ∧ p.delay? number e = Duration.ofNanos? n := by
  have other : (∀ secs, e ≠ .rateLimited secs) →
      p.Pause number e (p.baseDelay.nanos * min (Nat.pow 2 number) 4294967295) := by
    intro unasked
    -- The least power of two that does not fit is one more than the largest factor.
    by_cases small : Nat.pow 2 number < 4294967296
    · rw [Nat.min_eq_left (by omega)]
      exact .doubled unasked small
    · rw [Nat.min_eq_right (by omega)]
      exact .largest unasked (Nat.le_of_not_lt small)
  cases e with
  | rateLimited secs => exact ⟨_, .asked secs, (Duration.ofNanos?_eq_some.mpr rfl).symm⟩
  | _ => exact ⟨_, other fun _ => nofun, rfl⟩

/-- If `delay? = some d`, the wait `d` is as it should be. -/
theorem pause_of_delay? {number : Nat} {e : ProviderError} {d : Duration}
    (h : p.delay? number e = some d) : p.Pause number e d.nanos := by
  obtain ⟨n, pause, same⟩ := p.pause_delay? number e
  rw [Duration.ofNanos?_eq_some.mp (same.symm.trans h)]
  exact pause

/-- If `delay? = none`, the wait is too long for a `Duration`. -/
theorem pause_of_delay?_eq_none {number : Nat} {e : ProviderError}
    (h : p.delay? number e = none) : ∃ n, p.Pause number e n ∧ Duration.limit ≤ n := by
  obtain ⟨n, pause, same⟩ := p.pause_delay? number e
  exact ⟨n, pause, Duration.ofNanos?_eq_none.mp (same.symm.trans h)⟩

/-- Whether an attempt that begins at `start` may have `timeout`. -/
structure Timely (p : RetryPolicy) (deadline start : Instant) (timeout : Duration) : Prop where
  /-- It begins before the deadline. -/
  early : start.nanos < deadline.nanos
  /-- It has the time for one attempt, or what is left until the deadline. -/
  time : timeout.nanos = min p.attemptTimeout.nanos (deadline.nanos - start.nanos)

/-- Whether a setback of some number is one that the policy allows. -/
structure Endures (p : RetryPolicy) (deadline : Instant) (number : Nat) (s : Setback) : Prop where
  /-- The attempt has its time. -/
  timely : p.Timely deadline s.start s.timeout
  /-- Its failure may pass. -/
  passing : s.error.Passing
  /-- The wait is the one for that failure. -/
  pause : p.Pause number s.error s.wait.nanos
  /-- It ends before the deadline. -/
  room : s.wait.nanos < deadline.nanos - s.stop.nanos

/-- How a run may end after a number of setbacks, and what comes of it. -/
inductive Ends (p : RetryPolicy) (deadline : Instant) (number : Nat) :
    Finish α → Option (Except ProviderError α) → Prop where
  /-- The time is up before an attempt. -/
  | late {now : Instant} (up : deadline.nanos ≤ now.nanos) : Ends p deadline number (.late now)
    (some (.error (.timeout s!"gave up after {p.totalTimeout.nanos / 1000000000}s")))
  /-- An attempt succeeds. -/
  | success {start : Instant} {timeout : Duration} {a : α}
    (timely : p.Timely deadline start timeout) :
    Ends p deadline number (.attempt start timeout (.ok a) none) (some (.ok a))
  /-- An attempt fails for good. -/
  | permanent {start : Instant} {timeout : Duration} {e : ProviderError}
    (timely : p.Timely deadline start timeout) (permanent : ¬ e.Passing) :
    Ends p deadline number (.attempt start timeout (.error e) none) (some (.error e))
  /-- An attempt fails and was the last of those allowed. -/
  | exhausted {start : Instant} {timeout : Duration} {e : ProviderError}
    (timely : p.Timely deadline start timeout) (last : number = p.maxRetries.toNat) :
    Ends p deadline number (.attempt start timeout (.error e) none) (some (.error e))
  /-- An attempt fails, and there is no time for the wait. -/
  | noRoom {start stop : Instant} {timeout d : Duration} {e : ProviderError}
    (timely : p.Timely deadline start timeout) (passing : e.Passing)
    (left : number < p.maxRetries.toNat) (pause : p.Pause number e d.nanos)
    (long : deadline.nanos - stop.nanos ≤ d.nanos) :
    Ends p deadline number (.attempt start timeout (.error e) (some stop)) (some (.error e))
  /-- An attempt fails, and the wait is too long for a `Duration`. -/
  | overflow {start : Instant} {timeout : Duration} {e : ProviderError} {n : Nat}
    (timely : p.Timely deadline start timeout) (passing : e.Passing)
    (left : number < p.maxRetries.toNat) (pause : p.Pause number e n)
    (beyond : Duration.limit ≤ n) : Ends p deadline number (.stopped start timeout e) none

/-- Whether a run, after a number of setbacks before, keeps to the policy. -/
structure Keeps (p : RetryPolicy) (deadline : Instant) (before : Nat) (setbacks : List Setback)
    (finish : Finish α) (outcome : Option (Except ProviderError α)) : Prop where
  /-- Attempts are repeated so many times only. -/
  number : before + setbacks.length ≤ p.maxRetries.toNat
  /-- Each setback is one that the policy allows. -/
  endures : ∀ k (h : k < setbacks.length), p.Endures deadline (before + k) setbacks[k]
  /-- So is the end. -/
  ends : p.Ends deadline (before + setbacks.length) finish outcome

namespace Keeps

variable {before : Nat} {setbacks : List Setback} {finish : Finish α}
  {outcome : Option (Except ProviderError α)}

/-- At most one attempt comes after the setbacks. -/
theorem attemptsMade_le (h : p.Keeps deadline 0 setbacks finish outcome) :
    attemptsMade setbacks finish ≤ p.maxRetries.toNat + 1 := by
  have number := h.number
  cases finish <;> simp only [attemptsMade] <;> omega

/-- **A run has an outcome if no wait is too long**, that is if every product `baseDelay * 2 ^ k` is
a `Duration`, with `k` a number of a retry and the factor within 32 bits. -/
theorem returns (h : p.Keeps deadline before setbacks finish outcome)
    (short : ∀ k < p.maxRetries.toNat,
      p.baseDelay.nanos * min (Nat.pow 2 k) 4294967295 < Duration.limit) : outcome ≠ none := by
  rintro rfl
  cases h.ends with
  | overflow _ _ left pause beyond =>
    have bound := short _ left
    -- Seconds in a word of 64 bits are a `Duration`, so the wait was not asked for.
    cases pause with
    | asked secs =>
      have := (Duration.ofSeconds secs).fits
      unfold Duration.limit at beyond
      exact absurd this (Nat.not_lt.mpr beyond)
    | doubled _ small =>
      rw [Nat.min_eq_left (by omega)] at bound
      omega
    | largest _ large =>
      rw [Nat.min_eq_right (by omega)] at bound
      omega

/-- One more setback before all others. -/
theorem cons {s : Setback} (first : p.Endures deadline before s)
    (h : p.Keeps deadline (before + 1) setbacks finish outcome) :
    p.Keeps deadline before (s :: setbacks) finish outcome := by
  have shift : ∀ k, before + (k + 1) = before + 1 + k := by omega
  constructor
  case number =>
    rw [List.length_cons, shift]
    exact h.number
  case endures =>
    rintro (_ | k) inside
    · exact first
    · rw [shift]
      exact h.endures k (Nat.lt_of_succ_lt_succ inside)
  case ends =>
    rw [List.length_cons, shift]
    exact h.ends

/-- Nothing but the end. -/
theorem nil (number : before ≤ p.maxRetries.toNat) (ends : p.Ends deadline before finish outcome) :
    p.Keeps deadline before [] finish outcome :=
  ⟨number, fun _ => nofun, ends⟩

end Keeps

/-! ## Runs -/

section Runs

variable {c : Clock σ} {attempt : Duration → σ → Except ProviderError α × σ}
  {Tries : Duration → σ → Except ProviderError α → σ → Prop}

/-- Whether a run is a course from some world that keeps to the policy. -/
def Follows (p : RetryPolicy) (c : Clock σ)
    (Tries : Duration → σ → Except ProviderError α → σ → Prop) (deadline : Instant)
    (before : Nat) (world : σ) (run : RetryRun α σ) : Prop :=
  ∃ setbacks finish, Course c Tries world setbacks finish run.world ∧
    p.Keeps deadline before setbacks finish run.outcome ∧ run.events = record setbacks finish

/-- **`attempts` follows the policy**, whatever number of retries is left. -/
theorem follows_attempts (tries : ∀ {timeout world outcome world'},
      attempt timeout world = (outcome, world') → Tries timeout world outcome world')
    (p : RetryPolicy) (deadline : Instant) {retries before : Nat}
    (count : before + retries = p.maxRetries.toNat) (world : σ) :
    p.Follows c Tries deadline before world
      (p.attempts c attempt deadline retries before world) := by
  have timely : ∀ {start : Instant}, ¬ start.timeTo deadline = .zero →
      p.Timely deadline start (min p.attemptTimeout (start.timeTo deadline)) := by
    intro start early
    rw [Instant.timeTo_eq_zero, Nat.not_le] at early
    exact ⟨early, Duration.nanos_min _ _⟩
  -- The sum of the retries left and the failures before is the same at every attempt, which is how
  -- the last failure is known to be the last one allowed.
  fun_induction RetryPolicy.attempts p c attempt deadline retries before world with
  | case1 retries before _ now _ looks up =>
    refine ⟨[], .late now, .late looks, .nil (by omega) (.late ?_), rfl⟩
    exact Instant.timeTo_eq_zero.mp up
  | case2 retries before _ start _ looks early _ _ a came =>
    refine ⟨[], .attempt start _ (.ok a) none, .attempt looks (tries came), ?_, rfl⟩
    exact .nil (by omega) (.success (timely early))
  | case3 before _ start _ looks early _ _ e came =>
    refine ⟨[], .attempt start _ (.error e) none, .attempt looks (tries came), ?_, rfl⟩
    exact .nil (by omega) (.exhausted (timely early) count)
  | case4 before _ start _ looks early _ _ e retries permanent came =>
    refine ⟨[], .attempt start _ (.error e) none, .attempt looks (tries came), ?_, rfl⟩
    have lasting : ¬ e.Passing := by
      rw [← ProviderError.isTransient_iff]
      simpa using permanent
    exact .nil (by omega) (.permanent (timely early) lasting)
  | case5 before _ start _ looks early timeout _ e retries transient unbounded came =>
    have passing : e.Passing := ProviderError.isTransient_iff.mp (by simpa using transient)
    obtain ⟨n, pause, beyond⟩ := pause_of_delay?_eq_none unbounded
    refine ⟨[], .stopped start timeout e, .stopped looks (tries came), ?_, rfl⟩
    exact .nil (by omega) (.overflow (timely early) passing (by omega) pause beyond)
  | case6 before _ start _ looks early _ _ e retries transient d delay stop _ again long came =>
    have passing : e.Passing := ProviderError.isTransient_iff.mp (by simpa using transient)
    refine ⟨[], .attempt start _ (.error e) (some stop), .timed looks (tries came) again, ?_, rfl⟩
    exact .nil (by omega) (.noRoom (timely early) passing (by omega) (pause_of_delay? delay) long)
  | case7 before _ start _ looks early timeout _ e retries transient d delay stop _ again room _ came
      _ ih =>
    have passing : e.Passing := ProviderError.isTransient_iff.mp (by simpa using transient)
    obtain ⟨setbacks, finish, course, keeps, events⟩ := ih (by omega)
    refine ⟨⟨start, timeout, e, stop, d⟩ :: setbacks, finish,
      .setback looks (tries came) again course, keeps.cons ?_, ?_⟩
    · exact ⟨timely early, passing, pause_of_delay? delay, Nat.lt_of_not_le room⟩
    · rw [events]
      rfl

/-- **`RetryPolicy.run` follows the policy**, its deadline being counted from a first reading of the
clock; if that is no `Instant`, the program is stopped before any attempt. -/
theorem follows_run (tries : ∀ {timeout world outcome world'},
      attempt timeout world = (outcome, world') → Tries timeout world outcome world')
    (p : RetryPolicy) (world : σ) : ∃ start world', c.now world = (start, world') ∧
      ((Instant.limit ≤ start.nanos + p.totalTimeout.nanos ∧
          p.run c attempt world = ⟨none, [], c.stop world'⟩) ∨
        ∃ deadline : Instant, deadline.nanos = start.nanos + p.totalTimeout.nanos ∧
          p.Follows c Tries deadline 0 world' (p.run c attempt world)) := by
  refine ⟨(c.now world).1, (c.now world).2, rfl, ?_⟩
  unfold RetryPolicy.run
  simp only
  cases sum : (c.now world).1.after? p.totalTimeout with
  | none => exact .inl ⟨Instant.after?_eq_none.mp sum, rfl⟩
  | some deadline =>
    refine .inr ⟨deadline, Instant.after?_eq_some.mp sum, ?_⟩
    exact p.follows_attempts tries deadline (Nat.zero_add _) _

end Runs

end RetryPolicy

end Http

end Colloquy
