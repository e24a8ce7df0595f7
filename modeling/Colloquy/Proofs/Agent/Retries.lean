import Colloquy.Proofs.Agent.Index
import Colloquy.Proofs.Agent.Round
import Colloquy.Proofs.Except
import Mathlib.Data.List.DropRight

/-! # Retry budgets

A tool is shown how often it has asked for a retry since it last succeeded, and the run ends when it
asks once more than its budget allows.  `retriesSince` counts on the executions of a run, `Ledger`
says that every execution was shown its count, and `Accounted` that the state of the run keeps the
counts, which every step preserves.  The main statement is `Agent.run_budgeted`. -/

namespace Colloquy

/-! ## Counting retries -/

namespace Execution

variable {δ : Type} {x : Execution δ} {xs : List (Execution δ)} {tool : String}

/-- The wish for a retry that an execution came to, if it did. -/
def wish? (x : Execution δ) : Option ModelRetry :=
  match x.outcome.value? with
  | some (.error retry) => some retry
  | _ => none

/-- Whether an execution is one of a tool, and asked for a retry. -/
def wants (tool : String) (x : Execution δ) : Bool := x.call.name = tool && x.wish?.isSome

/-- Whether an execution is one of a tool, and came to a result that reports no failure. -/
def succeeds (tool : String) (x : Execution δ) : Bool :=
  x.call.name = tool &&
    match x.outcome.value? with
    | some (.ok result) => !result.isError
    | _ => false

/-- How often a tool asked for a retry since it last succeeded, or since the beginning. -/
def retriesSince (tool : String) (xs : List (Execution δ)) : Nat :=
  (xs.rtakeWhile fun x => !x.succeeds tool).countP (wants tool)

/-- What it means to be an execution of a tool that asked for a retry. -/
theorem wants_iff : x.wants tool = true ↔ x.call.name = tool ∧ ∃ retry, x.wish? = some retry := by
  rw [wants, Bool.and_eq_true, decide_eq_true_eq, Option.isSome_iff_exists]

/-- An execution that asked for a retry did not succeed. -/
theorem not_succeeds_of_wish? {retry : ModelRetry} (h : x.wish? = some retry) :
    x.succeeds tool = false := by
  rw [wish?] at h
  rw [succeeds]
  split at h
  · next asked => simp [asked]
  · cases h

/-- A success starts the count afresh. -/
theorem retriesSince_of_succeeds (h : x.succeeds tool = true) :
    retriesSince tool (xs ++ [x]) = 0 := by
  rw [retriesSince, List.rtakeWhile_concat_neg _ _ _ (by simp [h]), List.countP_nil]

/-- Every other execution counts if it asked for a retry. -/
theorem retriesSince_of_not_succeeds (h : x.succeeds tool = false) :
    retriesSince tool (xs ++ [x]) = retriesSince tool xs + if x.wants tool then 1 else 0 := by
  rw [retriesSince, List.rtakeWhile_concat_pos _ _ _ (by simp [h]), List.countP_append,
    List.countP_singleton, retriesSince]

/-- Executions of other tools do not count. -/
theorem retriesSince_of_other (h : x.call.name ≠ tool) :
    retriesSince tool (xs ++ [x]) = retriesSince tool xs := by
  have idle : x.succeeds tool = false := by simp [succeeds, h]
  have unasked : x.wants tool = false := by simp [wants, h]
  rw [retriesSince_of_not_succeeds idle, unasked]
  rfl

/-- **Without a success the count goes on** by the wishes that were made. -/
theorem retriesSince_append {ys : List (Execution δ)}
    (h : ∀ y ∈ ys, y.succeeds tool = false) :
    retriesSince tool (xs ++ ys) = retriesSince tool xs + ys.countP (wants tool) := by
  induction ys using List.reverseRecOn with
  | nil => rw [List.append_nil, List.countP_nil, Nat.add_zero]
  | append_singleton ys y ih =>
    obtain ⟨earlier, last⟩ := List.forall_mem_append.mp h
    have idle : y.succeeds tool = false := last y List.mem_cons_self
    rw [← List.append_assoc, retriesSince_of_not_succeeds idle, ih earlier, List.countP_append,
      List.countP_singleton, Nat.add_assoc]

/-- The count of a tool that always asks for a retry is the number of its executions. -/
theorem countP_eq_retriesSince (always : ∀ x ∈ xs, x.call.name = tool → x.wish?.isSome) :
    xs.countP (fun x => x.call.name = tool) = retriesSince tool xs := by
  have unsuccessful : ∀ x ∈ xs, x.succeeds tool = false := by
    intro x mem
    by_cases mine : x.call.name = tool
    · obtain ⟨retry, asked⟩ := Option.isSome_iff_exists.mp (always x mem mine)
      exact not_succeeds_of_wish? asked
    · simp [succeeds, mine]
  have count : retriesSince tool ([] ++ xs) =
      retriesSince tool [] + xs.countP (wants tool) := retriesSince_append unsuccessful
  rw [List.nil_append] at count
  rw [count, retriesSince, List.rtakeWhile_nil, List.countP_nil, Nat.zero_add]
  refine List.countP_congr fun x mem => ?_
  have asks := always x mem
  simp only [wants, decide_eq_true_eq, Bool.and_eq_true]
  exact ⟨fun mine => ⟨mine, asks mine⟩, And.left⟩

/-- Whether an execution used up its tool's budget: it asked for a retry when none was left. -/
def Exhausts (x : Execution δ) (retry : ModelRetry) : Prop :=
  x.wish? = some retry ∧ x.context.retry = x.context.maxRetries.toNat

/-- Whether a wish for a retry would end the run in the place of what an execution came to: any
agent that services the same call with the same context fails if its tool asks for a retry. -/
def WouldEnd (options : RunOptions) (x : Execution δ) : Prop :=
  ∀ {σ ο : Type} (a : Agent δ σ ο) (p : Progress δ σ) (tool : AgentTool δ σ)
    (d : Delivery ToolOutcome) (retry : ModelRetry), a.tool? x.call.name = some tool →
    p.context.cancelled = false → d.value? = some (.error retry) →
    a.execution options tool x.call p = ⟨x.call, x.context, d⟩ →
    (a.serviceCall options x.call p).1 =
      .error (.toolRetriesExceeded x.call.name x.context.maxRetries retry.message)

end Execution

open Execution (retriesSince wants)

/-- The execution that an event stands for. -/
def RunEvent.execution? {δ : Type} : RunEvent δ → Option (Execution δ)
  | .requested _ _ => none
  | .executed call context outcome => some ⟨call, context, outcome⟩

/-- The executions of a run so far. -/
def Progress.executions {δ σ : Type} (p : Progress δ σ) : List (Execution δ) :=
  p.events.filterMap RunEvent.execution?

/-- `Client.receive` is no failure of the run itself. -/
theorem Client.receive_ne_run (format : Option ResponseFormat)
    (answer : Except ProviderError ChatResponse) (e : RunError) :
    receive format answer ≠ .error (.run e) := by
  intro failed
  cases answer with
  | error => cases failed
  | ok response =>
    cases format with
    | none => cases failed
    | some format =>
      rw [receive, extractInto] at failed
      split at failed <;> cases failed

/-- The failure with which a round ends, if it does. -/
def RoundEnd.failure? {ο : Type} : RoundEnd ο → Option Error
  | .failed e => some e
  | _ => none

namespace Agent

variable {δ σ ο : Type}

/-- The budget of a run: what its executions are shown, and when a wish for a retry ends it. -/
structure Budgeted (a : Agent δ σ ο) (options : RunOptions) (xs : List (Execution δ))
    (outcome : Except Error (RunResult ο)) : Prop where
  /-- A tool is shown how often it has asked for a retry since it last succeeded. -/
  retry : ∀ before x after, xs = before ++ x :: after →
    x.context.retry = retriesSince x.call.name before
  /-- It is shown its budget: the run's, else its own, else the agent's. -/
  maxRetries : ∀ x ∈ xs, ∃ tool, a.tool? x.call.name = some tool ∧
    x.context.maxRetries = ((options.retries.or tool.retries).getD a.config.retries)
  /-- It never asked more often than its budget allows. -/
  within : ∀ x ∈ xs, x.context.retry ≤ x.context.maxRetries.toNat
  /-- It is shown which call it services. -/
  toolCallId : ∀ x ∈ xs, x.context.toolCallId = some x.call.id
  /-- It is told of its last attempt exactly if a wish for a retry would end the run. -/
  lastAttempt : ∀ x ∈ xs, x.context.lastAttempt = true ↔ x.WouldEnd options
  /-- The first wish for a retry when none is left ends the run. -/
  exhausted : ∀ before x after retry, xs = before ++ x :: after → x.wish? = some retry →
    x.context.retry = x.context.maxRetries.toNat →
    after = [] ∧ outcome =
      .error (.run (.toolRetriesExceeded x.call.name x.context.maxRetries retry.message))
  /-- Nothing else ends a run so. -/
  exceeded : ∀ tool n message, outcome = .error (.run (.toolRetriesExceeded tool n message)) →
    ∃ before x, xs = before ++ [x] ∧ x.call.name = tool ∧ x.wish? = some ⟨message⟩ ∧
      x.context.retry = n.toNat ∧ x.context.maxRetries = n
  /-- As long as a tool does not succeed, it asks for a retry at most once more than its budget. -/
  between : ∀ name tool, a.tool? name = some tool → ∀ before stretch after,
    xs = before ++ stretch ++ after → (∀ x ∈ stretch, x.succeeds name = false) →
    stretch.countP (wants name) ≤ (a.retryBudget options.retries tool).toNat + 1
  /-- A tool that always asks for a retry is executed once more than its budget if that ends the
  run, and no more often than its budget if anything else does. -/
  always : ∀ name tool, a.tool? name = some tool →
    (∀ x ∈ xs, x.call.name = name → x.wish?.isSome) →
    (∃ message, outcome = .error (.run
        (.toolRetriesExceeded name (a.retryBudget options.retries tool) message)) ∧
      xs.countP (fun x => x.call.name = name) =
        (a.retryBudget options.retries tool).toNat + 1) ∨
    (∀ n message, outcome ≠ .error (.run (.toolRetriesExceeded name n message))) ∧
      xs.countP (fun x => x.call.name = name) ≤ (a.retryBudget options.retries tool).toNat

/-! ## What executions are shown -/

/-- What an execution is shown after the ones before it. -/
structure Shown (a : Agent δ σ ο) (options : RunOptions) (before : List (Execution δ))
    (x : Execution δ) : Prop where
  /-- The run is not cancelled. -/
  running : x.context.cancelled = false
  /-- The fields of the call are those with which it began. -/
  begun : x.context.beginCall x.call.id x.call.name x.context.maxRetries = x.context
  /-- The count of its tool. -/
  retry : x.context.retry = retriesSince x.call.name before
  /-- The budget of its tool. -/
  budget : ∃ tool, a.tool? x.call.name = some tool ∧
    x.context.maxRetries = a.retryBudget options.retries tool
  /-- The count does not exceed the budget. -/
  within : x.context.retry ≤ x.context.maxRetries.toNat

/-- Every execution was shown what it has to be shown. -/
def Ledger (a : Agent δ σ ο) (options : RunOptions) (xs : List (Execution δ)) : Prop :=
  ∀ before x after, xs = before ++ x :: after → Shown a options before x

section Ledger

variable {a : Agent δ σ ο} {options : RunOptions} {xs : List (Execution δ)} {x : Execution δ}
  {name : String} {tool : AgentTool δ σ}

/-- An execution that is shown what it has to be shown is added to the ledger. -/
theorem Ledger.concat (h : Ledger a options xs) (shown : Shown a options xs x) :
    Ledger a options (xs ++ [x]) := by
  intro before y after split
  rcases List.eq_nil_or_concat after with rfl | ⟨after, z, rfl⟩
  · obtain ⟨rfl, same⟩ := List.append_inj' split rfl
    obtain rfl := List.singleton_inj.mp same
    exact shown
  · rw [List.concat_eq_append, ← List.cons_append, ← List.append_assoc] at split
    exact h before y after (List.append_inj' split rfl).1

/-- The budget that a tool is shown is the tool's. -/
theorem Shown.maxRetries_eq (h : Shown a options xs x) (known : a.tool? x.call.name = some tool) :
    x.context.maxRetries = a.retryBudget options.retries tool := by
  obtain ⟨tool', known', budget⟩ := h.budget
  obtain rfl : tool' = tool := Option.some.inj (known'.symm.trans known)
  exact budget

/-- What comes first in a ledger is a ledger. -/
theorem Ledger.of_append {ys : List (Execution δ)} (h : Ledger a options (xs ++ ys)) :
    Ledger a options xs := by
  rintro before x after rfl
  exact h before x (after ++ ys) (by simp)

/-- **`retriesSince` stays within the budget of the tool** as long as the tool does not exhaust it.
-/
theorem Ledger.retriesSince_le (h : Ledger a options xs) (known : a.tool? name = some tool)
    (unspent : ∀ x ∈ xs, x.call.name = name → ∀ retry, ¬ x.Exhausts retry) :
    retriesSince name xs ≤ (a.retryBudget options.retries tool).toNat := by
  induction xs using List.reverseRecOn with
  | nil => exact Nat.zero_le _
  | append_singleton xs x ih =>
    obtain ⟨earlier, last⟩ := List.forall_mem_append.mp unspent
    have before := ih h.of_append earlier
    by_cases mine : x.call.name = name
    · subst mine
      cases succeeded : x.succeeds x.call.name with
      | true =>
        rw [Execution.retriesSince_of_succeeds succeeded]
        exact Nat.zero_le _
      | false =>
        rw [Execution.retriesSince_of_not_succeeds succeeded]
        split
        · next asked =>
          -- It asked for a retry when some were left, so one more is still within the budget.
          have shown := h xs x [] rfl
          obtain ⟨-, retry, wished⟩ := Execution.wants_iff.mp asked
          have left : x.context.retry ≠ x.context.maxRetries.toNat := fun none =>
            List.forall_mem_singleton.mp last rfl retry ⟨wished, none⟩
          have within := shown.within
          rw [← shown.retry, ← shown.maxRetries_eq known]
          omega
        · exact before
    · rw [Execution.retriesSince_of_other mine]
      exact before

/-- **A stretch without a success holds one wish for a retry more than the budget**, at most. -/
theorem Ledger.countP_wants_le {before stretch after : List (Execution δ)}
    (h : Ledger a options (before ++ stretch ++ after)) (known : a.tool? name = some tool)
    (unsuccessful : ∀ x ∈ stretch, x.succeeds name = false) :
    stretch.countP (wants name) ≤ (a.retryBudget options.retries tool).toNat + 1 := by
  induction stretch using List.reverseRecOn generalizing after with
  | nil => exact Nat.zero_le _
  | append_singleton stretch x ih =>
    obtain ⟨earlier, last⟩ := List.forall_mem_append.mp unsuccessful
    rw [← List.append_assoc, List.append_assoc (before ++ stretch)] at h
    rw [List.countP_append, List.countP_singleton]
    split
    · next asked =>
      -- The last one that asked was shown how many there were before it.
      have shown := h (before ++ stretch) x after rfl
      obtain ⟨rfl, -⟩ := Execution.wants_iff.mp asked
      have count := shown.retry
      have within := shown.within
      rw [Execution.retriesSince_append earlier] at count
      rw [shown.maxRetries_eq known] at within
      omega
    · exact ih h earlier

/-- **The last attempt is the one whose wish for a retry would end the run.** -/
theorem Shown.lastAttempt_iff (h : Shown a options xs x) :
    x.context.lastAttempt = true ↔ x.WouldEnd options := by
  constructor
  · intro last σ' ο' b p tool d retry known running asked begun
    have service := b.callService_serviceCall options x.call p
    generalize b.serviceCall options x.call p = r at service
    cases service with
    | unknown missing => exact absurd (known.symm.trans missing) nofun
    | cancelled _ stopped => exact absurd (running.symm.trans stopped) nofun
    | cut known' _ undelivered =>
      obtain rfl := Option.some.inj (known.symm.trans known')
      rw [begun] at undelivered
      exact absurd (asked.symm.trans undelivered) nofun
    | settled known' _ delivered =>
      obtain rfl := Option.some.inj (known.symm.trans known')
      rw [begun] at delivered
      obtain rfl := Option.some.inj (asked.symm.trans delivered)
      simp only [executed, begun, settle, RunContext.after_lastAttempt, last, if_true]
      rfl
  · intro wouldEnd
    -- An agent whose only tool asks for a retry, at the place where the run came to the call.
    let tool : AgentTool δ Unit :=
      ⟨⟨x.call.name, "", .null, none⟩, some x.context.maxRetries,
        fun _ _ world => (.ended (.error ⟨""⟩), world)⟩
    let b : Agent δ Unit Unit :=
      ⟨fun _ world => (.cut, world), "", [], [tool], .standard, none, .text fun _ => ()⟩
    have known : b.tool? x.call.name = some tool := by
      obtain ⟨own, ownKnown, -⟩ := h.budget
      obtain ⟨well, i, place, named⟩ := tool?_eq_some.mp ownKnown
      have free : x.call.name ≠ ResponseFormat.outputToolName := fun same =>
        well.1 (List.mem_map.mpr ⟨own, List.mem_of_getElem? place, named.trans same⟩)
      have lone : WellNamed (b.tools.map AgentTool.name) :=
        ⟨fun mem => free (List.mem_singleton.mp mem).symm, List.pairwise_singleton _ _⟩
      exact tool?_eq_some.mpr ⟨lone, 0, rfl, rfl⟩
    have budget : b.retryBudget options.retries tool = x.context.maxRetries := by
      obtain ⟨_, -, same⟩ := h.budget
      rw [retryBudget] at same ⊢
      cases given : options.retries with
      | none => rfl
      | some n => rw [same, given]; rfl
    have begun : b.execution options tool x.call ⟨x.context, 0, (), []⟩ =
        ⟨x.call, x.context, .ended (.error ⟨""⟩)⟩ := by
      simp only [execution, budget, h.begun, tool]
    have ended := wouldEnd b ⟨x.context, 0, (), []⟩ tool _ _ known h.running rfl begun
    by_contra others
    have went : (b.serviceCall options x.call ⟨x.context, 0, (), []⟩).1 = .ok () := by
      simp [serviceCall, known, budget, h.begun, h.running, tool, settle, Delivery.value?, others]
    rw [went] at ended
    cases ended

end Ledger

/-! ## What a run keeps -/

/-- Whether a budget was exhausted exactly if a run failed for it. -/
structure Closed (xs : List (Execution δ)) (failure : Option Error) : Prop where
  /-- The execution that exhausts a budget is the last one, and the run fails for it. -/
  exhausted : ∀ before x after retry, xs = before ++ x :: after → x.Exhausts retry →
    after = [] ∧ failure =
      some (.run (.toolRetriesExceeded x.call.name x.context.maxRetries retry.message))
  /-- If the run fails for a budget, the last execution exhausted it. -/
  exceeded : ∀ tool n message, failure = some (.run (.toolRetriesExceeded tool n message)) →
    ∃ before x, xs = before ++ [x] ∧ x.call.name = tool ∧ x.Exhausts ⟨message⟩ ∧
      x.context.maxRetries = n

section Closed

variable {xs : List (Execution δ)} {failure : Option Error} {x : Execution δ} {retry : ModelRetry}

/-- While a run goes on, no budget is exhausted. -/
theorem Closed.unspent (h : Closed xs none) : ∀ x ∈ xs, ∀ retry, ¬ x.Exhausts retry := by
  intro x mem retry spent
  obtain ⟨before, after, rfl⟩ := List.append_of_mem mem
  exact absurd (h.exhausted before x after retry rfl spent).2 nofun

/-- If no budget is exhausted, a run may go on or fail for another reason. -/
theorem Closed.of_unspent (unspent : ∀ x ∈ xs, ∀ retry, ¬ x.Exhausts retry)
    (other : ∀ tool n message, failure ≠ some (.run (.toolRetriesExceeded tool n message))) :
    Closed xs failure where
  exhausted before x after retry split spent := absurd spent (unspent x (by simp [split]) retry)
  exceeded tool n message failed := absurd failed (other tool n message)

/-- After an execution that does not exhaust its budget, a run may go on or fail for another
reason. -/
theorem Closed.concat (h : Closed xs none) (left : ∀ retry, ¬ x.Exhausts retry)
    (other : ∀ tool n message, failure ≠ some (.run (.toolRetriesExceeded tool n message))) :
    Closed (xs ++ [x]) failure :=
  .of_unspent (List.forall_mem_append.mpr ⟨h.unspent, List.forall_mem_singleton.mpr left⟩) other

/-- The first execution that exhausts a budget closes the run. -/
theorem Closed.concat_of_exhausts (h : Closed xs none) (spent : x.Exhausts retry) :
    Closed (xs ++ [x])
      (some (.run (.toolRetriesExceeded x.call.name x.context.maxRetries retry.message))) where
  exhausted before y after retry' split spent' := by
    rcases List.eq_nil_or_concat after with rfl | ⟨after, z, rfl⟩
    · obtain ⟨rfl, same⟩ := List.append_inj' split rfl
      obtain rfl := List.singleton_inj.mp same
      obtain rfl := Option.some.inj (spent.1.symm.trans spent'.1)
      exact ⟨rfl, rfl⟩
    · rw [List.concat_eq_append, ← List.cons_append, ← List.append_assoc] at split
      obtain ⟨rfl, -⟩ := List.append_inj' split rfl
      exact absurd spent' (h.unspent y (by simp) retry')
  exceeded tool n message failed := by
    obtain ⟨rfl, rfl, rfl⟩ :=
      RunError.toolRetriesExceeded.inj (Error.run.inj (Option.some.inj failed))
    exact ⟨xs, x, rfl, rfl, spent, rfl⟩

/-- **A tool that always asks for a retry exceeds its budget by one** if the run fails for that, and
stays within it otherwise. -/
theorem Closed.countP_of_always {a : Agent δ σ ο} {options : RunOptions} {name : String}
    {tool : AgentTool δ σ} (h : Closed xs failure) (ledger : Ledger a options xs)
    (known : a.tool? name = some tool)
    (always : ∀ x ∈ xs, x.call.name = name → x.wish?.isSome) :
    (∃ message, failure = some (.run
        (.toolRetriesExceeded name (a.retryBudget options.retries tool) message)) ∧
      xs.countP (fun x => x.call.name = name) =
        (a.retryBudget options.retries tool).toNat + 1) ∨
    (∀ n message, failure ≠ some (.run (.toolRetriesExceeded name n message))) ∧
      xs.countP (fun x => x.call.name = name) ≤
        (a.retryBudget options.retries tool).toNat := by
  rw [Execution.countP_eq_retriesSince always]
  by_cases spent : ∃ x ∈ xs, x.call.name = name ∧ ∃ retry, x.Exhausts retry
  · -- The execution that exhausts the budget is the last one, and all before it count.
    obtain ⟨x, mem, rfl, retry, exhausts⟩ := spent
    obtain ⟨before, after, split⟩ := List.append_of_mem mem
    obtain ⟨rfl, failed⟩ := h.exhausted before x after retry split exhausts
    have shown := ledger before x [] split
    have budget := shown.maxRetries_eq known
    have unsuccessful : x.succeeds x.call.name = false :=
      Execution.not_succeeds_of_wish? exhausts.1
    have asked := Execution.wants_iff.mpr ⟨rfl, retry, exhausts.1⟩
    rw [budget] at failed
    refine .inl ⟨retry.message, failed, ?_⟩
    rw [split, Execution.retriesSince_of_not_succeeds unsuccessful, if_pos asked, ← shown.retry,
      exhausts.2, budget]
  · refine .inr ⟨fun n message failed => ?_, ?_⟩
    · obtain ⟨before, x, split, mine, exhausts, -⟩ := h.exceeded name n message failed
      exact spent ⟨x, by simp [split], mine, _, exhausts⟩
    · exact ledger.retriesSince_le known fun x mem mine retry exhausts =>
        spent ⟨x, mem, mine, retry, exhausts⟩

end Closed

/-- Whether a run that failed in some way, or did not so far, keeps its account. -/
structure Accounted (a : Agent δ σ ο) (options : RunOptions) (failure : Option Error)
    (p : Progress δ σ) : Prop where
  /-- Executions were shown what they have to be shown. -/
  ledger : Ledger a options p.executions
  /-- Budgets were not exhausted, unless that is the failure. -/
  closed : Closed p.executions failure
  /-- While the run goes on, its state has the count of every tool. -/
  counts : failure = none → ∀ tool, p.context.retriesOf tool = retriesSince tool p.executions

section Accounted

variable {a : Agent δ σ ο} {options : RunOptions} {p q : Progress δ σ}

/-- A step that executes nothing and leaves the counts alone keeps the account. -/
theorem Accounted.frame (h : Accounted a options none p) (executions : q.executions = p.executions)
    (counts : q.context.toolRetries = p.context.toolRetries) : Accounted a options none q := by
  refine ⟨executions ▸ h.ledger, executions ▸ h.closed, fun _ tool => ?_⟩
  rw [RunContext.retriesOf, counts, executions]
  exact h.counts rfl tool

/-- A run that fails for another reason than a budget keeps the account. -/
theorem Accounted.fail {e : Error} (h : Accounted a options none p)
    (other : ∀ tool n message, e ≠ .run (.toolRetriesExceeded tool n message))
    (executions : q.executions = p.executions) : Accounted a options (some e) q := by
  refine ⟨executions ▸ h.ledger, ?_, nofun⟩
  rw [executions]
  exact .of_unspent h.closed.unspent fun tool n message failed =>
    other tool n message (Option.some.inj failed)

/-! ### One call -/

/-- A new entry is the count of its tool and of no other. -/
theorem retriesOf_cons {c d : RunContext δ} {name : String} {n : Nat}
    (entered : d.toolRetries = (name, n) :: c.toolRetries) (tool : String) :
    d.retriesOf tool = if tool = name then n else c.retriesOf tool := by
  rw [RunContext.retriesOf, entered, List.lookup_cons]
  by_cases same : tool = name
  · rw [if_pos same, beq_iff_eq.mpr same]
    rfl
  · rw [if_neg same, beq_eq_false_iff_ne.mpr same]
    rfl

/-- **A call about to be executed is shown what it has to be shown.** -/
theorem Accounted.shown (h : Accounted a options none p) {call : ToolCall} {tool : AgentTool δ σ}
    (known : a.tool? call.name = some tool) (running : p.context.cancelled = false) :
    Shown a options p.executions (a.execution options tool call p) where
  running := running
  begun := rfl
  retry := h.counts rfl call.name
  budget := ⟨tool, known, rfl⟩
  within := by
    change p.context.retriesOf call.name ≤ _
    rw [h.counts rfl call.name]
    exact h.ledger.retriesSince_le known fun x mem _ => h.closed.unspent x mem

/-- A call that reaches its tool adds its execution. -/
theorem executions_executed (a : Agent δ σ ο) (options : RunOptions) (tool : AgentTool δ σ)
    (call : ToolCall) (p : Progress δ σ) :
    (a.executed options tool call p).executions =
      p.executions ++ [a.execution options tool call p] := by
  simp [Progress.executions, executed, Execution.event, RunEvent.execution?]

/-- A wish for a retry is fatal on the last attempt. -/
theorem settle_error_fst (limits : UsageLimits) (call : ToolCall) (retry : ModelRetry)
    (c : RunContext δ) :
    (settle limits call (.error retry) c).1 =
      if c.lastAttempt then .error (.toolRetriesExceeded call.name c.maxRetries retry.message)
      else .ok () := by
  rw [settle]
  split <;> rfl

/-- A result is fatal for a ceiling only. -/
theorem settle_ok_fst (limits : UsageLimits) (call : ToolCall) (result : ToolResult)
    (c : RunContext δ) :
    (settle limits call (.ok result) c).1 = .ok () ∨
      ∃ l, (settle limits call (.ok result) c).1 = .error (.usageLimitExceeded l) := by
  rw [settle]
  split
  · exact .inr ⟨_, rfl⟩
  · exact .inl rfl

/-- **`Agent.settle` ends the run for a budget** exactly if the execution exhausted it. -/
theorem Closed.settle {limits : UsageLimits} {x : Execution δ} {xs : List (Execution δ)}
    {outcome : ToolOutcome} {c : RunContext δ} (h : Closed xs none)
    (delivered : x.outcome.value? = some outcome)
    (within : x.context.retry ≤ x.context.maxRetries.toNat)
    (budget : c.maxRetries = x.context.maxRetries)
    (last : c.lastAttempt = x.context.lastAttempt) :
    Closed (xs ++ [x]) ((Agent.settle limits x.call outcome c).1.failure?.map .run) := by
  cases outcome with
  | error retry =>
    have asked : x.wish? = some retry := by rw [Execution.wish?, delivered]
    rw [settle_error_fst, last, budget, RunContext.lastAttempt]
    by_cases attempts : x.context.maxRetries.toNat ≤ x.context.retry
    · rw [decide_eq_true attempts, if_pos rfl]
      exact h.concat_of_exhausts ⟨asked, Nat.le_antisymm within attempts⟩
    · rw [decide_eq_false attempts, if_neg Bool.false_ne_true]
      have left : ∀ retry, ¬ x.Exhausts retry :=
        fun _ spent => attempts (Nat.le_of_eq spent.2.symm)
      exact h.concat left fun _ _ _ failed => by cases failed
  | ok result =>
    have idle : ∀ retry, ¬ x.Exhausts retry := by
      simp [Execution.Exhausts, Execution.wish?, delivered]
    rcases settle_ok_fst limits x.call result c with passed | ⟨l, crossed⟩
    · rw [passed]
      exact h.concat idle fun _ _ _ failed => by cases failed
    · rw [crossed]
      exact h.concat idle fun _ _ _ failed => by cases failed

/-- What a result does to the counts, whether it crosses a ceiling or not. -/
theorem settle_ok_toolRetries (limits : UsageLimits) (call : ToolCall) (result : ToolResult)
    (c : RunContext δ) :
    (settle limits call (.ok result) c).2.toolRetries =
      if result.isError then c.toolRetries else (call.name, 0) :: c.toolRetries := by
  rw [settle]
  cases result.isError <;> simp only [if_true, Bool.false_eq_true, if_false] <;> split <;> rfl

/-- **`Agent.settle` counts an outcome**, if the run goes on. -/
theorem retriesOf_settle {limits : UsageLimits} {x : Execution δ} {xs : List (Execution δ)}
    {outcome : ToolOutcome} {c : RunContext δ} (delivered : x.outcome.value? = some outcome)
    (counts : ∀ tool, c.retriesOf tool = retriesSince tool xs)
    (passed : (settle limits x.call outcome c).1 = .ok ()) (tool : String) :
    (settle limits x.call outcome c).2.retriesOf tool = retriesSince tool (xs ++ [x]) := by
  cases outcome with
  | error retry =>
    have asked : x.wish? = some retry := by rw [Execution.wish?, delivered]
    rw [settle] at passed ⊢
    split at passed
    · cases passed
    · next attempts =>
      rw [if_neg attempts, retriesOf_cons (c := c) rfl]
      by_cases mine : tool = x.call.name
      · subst mine
        have wanted := Execution.wants_iff.mpr ⟨rfl, retry, asked⟩
        rw [if_pos rfl, counts,
          Execution.retriesSince_of_not_succeeds (Execution.not_succeeds_of_wish? asked),
          if_pos wanted]
      · rw [if_neg mine, Execution.retriesSince_of_other (Ne.symm mine), counts]
  | ok result =>
    have unasked : x.wish? = none := by rw [Execution.wish?, delivered]
    have entries := settle_ok_toolRetries limits x.call result c
    by_cases mine : tool = x.call.name
    · subst mine
      have success : x.succeeds x.call.name = !result.isError := by
        simp [Execution.succeeds, delivered]
      cases flag : result.isError with
      | true =>
        -- A result that reports a failure leaves the count alone.
        have idle : x.wants x.call.name = false := by simp [wants, unasked]
        rw [flag, if_pos rfl] at entries
        rw [flag] at success
        rw [RunContext.retriesOf, entries, Execution.retriesSince_of_not_succeeds success, idle]
        exact counts x.call.name
      | false =>
        rw [flag, if_neg Bool.false_ne_true] at entries
        rw [flag] at success
        rw [retriesOf_cons entries, if_pos rfl, Execution.retriesSince_of_succeeds success]
    · rw [Execution.retriesSince_of_other (Ne.symm mine), ← counts]
      cases flag : result.isError with
      | true =>
        rw [flag, if_pos rfl] at entries
        rw [RunContext.retriesOf, entries]
        rfl
      | false =>
        rw [flag, if_neg Bool.false_ne_true] at entries
        rw [retriesOf_cons entries, if_neg mine]

/-- **`Agent.serviceCall` keeps the account.** -/
theorem Accounted.serviceCall (h : Accounted a options none p) (call : ToolCall) :
    Accounted a options ((a.serviceCall options call p).1.failure?.map .run)
      (a.serviceCall options call p).2 := by
  have service := a.callService_serviceCall options call p
  generalize a.serviceCall options call p = r at service
  cases service with
  | unknown => exact h.fail (fun _ _ _ same => by cases same) rfl
  | cancelled => exact h.fail (fun _ _ _ same => by cases same) rfl
  | @cut tool known running undelivered =>
    have executions := a.executions_executed options tool call p
    have idle : ∀ retry, ¬ (a.execution options tool call p).Exhausts retry := by
      simp [Execution.Exhausts, Execution.wish?, undelivered]
    refine ⟨?_, ?_, fun passed => by cases passed⟩
    · rw [executions]
      exact h.ledger.concat (h.shown known running)
    · rw [executions]
      exact h.closed.concat idle fun _ _ _ failed => by cases failed
  | @settled tool outcome known running delivered =>
    have shown := h.shown known running
    have executions : ({ a.executed options tool call p with
          context :=
            (settle options.limits call outcome (a.executed options tool call p).context).2 } :
          Progress δ σ).executions = p.executions ++ [a.execution options tool call p] :=
      a.executions_executed options tool call p
    refine ⟨?_, ?_, fun passed => ?_⟩
    · rw [executions]
      exact h.ledger.concat shown
    · rw [executions]
      exact h.closed.settle delivered shown.within rfl rfl
    · have counts : ∀ name, (a.executed options tool call p).context.retriesOf name =
          retriesSince name p.executions := h.counts rfl
      rw [executions]
      refine retriesOf_settle delivered counts ?_
      cases settled : (settle options.limits call outcome
          (a.executed options tool call p).context).1 with
      | ok => exact settled
      | error e =>
        rw [settled] at passed
        cases passed

/-! ### Whole rounds -/

/-- **`Agent.serviceCalls` keeps the account.** -/
theorem Accounted.serviceCalls (h : Accounted a options none p) (calls : List ToolCall) :
    Accounted a options (a.serviceCalls options calls p).1.failure?
      (a.serviceCalls options calls p).2 := by
  induction calls generalizing p with
  | nil => exact h
  | cons call rest ih =>
    have step := h.serviceCall call
    rw [Agent.serviceCalls]
    generalize a.serviceCall options call p = r at step
    obtain ⟨settled, q⟩ := r
    cases settled with
    | error e => exact step
    | ok => exact ih step

/-- `Agent.reject` keeps the account. -/
theorem Accounted.reject (h : Accounted a options none p) (e : OutputError) :
    Accounted a options (a.reject e p).1.failure? (a.reject e p).2 := by
  rcases a.reject_cases e p with ⟨-, fed⟩ | ⟨-, spent⟩
  · rw [fed]
    exact h.frame rfl rfl
  · rw [spent]
    exact h.fail nofun rfl

/-- `Agent.proceed` keeps the account. -/
theorem Accounted.proceed (h : Accounted a options none p) {received : Except Error ChatResponse}
    (clients : ∀ e, received ≠ .error (.run e)) :
    Accounted a options (a.proceed options received p).1.failure?
      (a.proceed options received p).2 := by
  have case := a.proceedCase_proceed options received p
  generalize a.proceed options received p = r at case
  -- Counting tokens and appending the message leave the counts alone.
  have pushed : ∀ {usage context} (m : Message),
      account options.limits usage p.context = .ok context →
      Accounted a options none { p with context := context.push m } := by
    intro usage context m counted
    refine h.frame rfl ?_
    rw [account_eq_ok counted]
    rfl
  cases case with
  | rejected => exact h.reject _
  | refused refusal =>
    exact h.fail (fun tool n message same => clients _ (same ▸ refusal)) rfl
  | empty => exact h.fail nofun rfl
  | overLimit _ _ crossed =>
    obtain ⟨_, l, _, _, rfl⟩ := account_eq_error crossed
    exact h.fail nofun rfl
  | calls _ _ counted => exact (pushed _ counted).serviceCalls _
  | answered _ _ counted => exact pushed _ counted
  | undecoded _ _ counted => exact (pushed _ counted).reject _

/-- **`Agent.round` keeps the account.** -/
theorem Accounted.round (h : Accounted a options none p) (systemPrompt : Option String) :
    Accounted a options (a.round options systemPrompt p).1.failure?
      (a.round options systemPrompt p).2 := by
  have case := a.roundCase_round options systemPrompt p
  generalize a.round options systemPrompt p = r at case
  have executions : (a.dispatch systemPrompt p).2.executions = p.executions := by
    simp [Progress.executions, RunEvent.execution?]
  cases case with
  | cancelled => exact h.fail nofun rfl
  | ceiling => exact h.fail nofun rfl
  | undelivered => exact h.fail nofun executions
  | @delivered answer _ _ delivery =>
    exact (h.frame executions rfl).proceed fun e => Client.receive_ne_run _ _ e

/-- **`Agent.rounds` keeps the account.** -/
theorem Accounted.rounds (h : Accounted a options none p) (systemPrompt : Option String) (n : Nat) :
    Accounted a options (a.rounds options systemPrompt n p).1.failure?
      (a.rounds options systemPrompt n p).2 := by
  induction n generalizing p with
  | zero => exact h.fail nofun rfl
  | succ n ih =>
    have step := h.round systemPrompt
    rw [Agent.rounds]
    generalize a.round options systemPrompt p = r at step
    obtain ⟨ending, q⟩ := r
    cases ending with
    | again => exact ih step
    | answered output => exact step
    | failed e => exact step

end Accounted

/-- **Every `Agent.run` keeps the account.** -/
theorem accounted_run (a : Agent δ σ ο) (deps : δ) (runId : String) (options : RunOptions)
    (cancelled : Bool) (world : σ) :
    Accounted a options (a.run deps runId options cancelled world).1.failure?
      (a.run deps runId options cancelled world).2 := by
  -- In the beginning nothing was executed and every count is zero.
  have first : Accounted a options none (begin deps runId options cancelled world) := by
    refine ⟨fun before x after split => ?_, .of_unspent nofun nofun, fun _ tool => rfl⟩
    cases before <;> cases split
  rw [run]
  split
  · exact first.fail nofun rfl
  · have whole := first.rounds (SystemPrompt.join deps a.systemPrompts)
      a.config.maxIterations.toNat
    generalize a.rounds options (SystemPrompt.join deps a.systemPrompts)
      a.config.maxIterations.toNat (begin deps runId options cancelled world) = r at whole
    obtain ⟨outcome, p⟩ := r
    cases outcome <;> exact whole

/-- **Retry budgets hold in every run**: each execution is shown the count and the budget of its
tool, and a run ends for a budget exactly when it is exhausted. -/
theorem run_budgeted (a : Agent δ σ ο) (deps : δ) (runId : String) (options : RunOptions)
    (cancelled : Bool) (world : σ) :
    Budgeted a options (a.run deps runId options cancelled world).2.executions
      (a.run deps runId options cancelled world).1 := by
  have account := a.accounted_run deps runId options cancelled world
  generalize a.run deps runId options cancelled world = r at account
  obtain ⟨outcome, p⟩ := r
  obtain ⟨ledger, closed, -⟩ := account
  dsimp only at ledger closed ⊢
  have shown : ∀ x ∈ p.executions, ∃ before, Shown a options before x := by
    intro x mem
    obtain ⟨before, after, split⟩ := List.append_of_mem mem
    exact ⟨before, ledger before x after split⟩
  constructor
  case retry =>
    intro before x after split
    exact (ledger before x after split).retry
  case maxRetries =>
    intro x mem
    obtain ⟨_, shown⟩ := shown x mem
    exact shown.budget
  case within =>
    intro x mem
    obtain ⟨_, shown⟩ := shown x mem
    exact shown.within
  case toolCallId =>
    intro x mem
    obtain ⟨_, shown⟩ := shown x mem
    rw [← shown.begun]
    rfl
  case lastAttempt =>
    intro x mem
    obtain ⟨_, shown⟩ := shown x mem
    exact shown.lastAttempt_iff
  case exhausted =>
    intro before x after retry split asked none
    obtain ⟨last, failed⟩ := closed.exhausted before x after retry split ⟨asked, none⟩
    exact ⟨last, Except.failure?_eq_some.mp failed⟩
  case exceeded =>
    intro tool n message failed
    obtain ⟨before, x, split, mine, ⟨asked, none⟩, rfl⟩ :=
      closed.exceeded tool n message (Except.failure?_eq_some.mpr failed)
    exact ⟨before, x, split, mine, asked, none, rfl⟩
  case between =>
    intro name tool known before stretch after split unsuccessful
    rw [split] at ledger
    exact ledger.countP_wants_le known unsuccessful
  case always =>
    intro name tool known always
    have counted := closed.countP_of_always ledger known always
    simp only [ne_eq, Except.failure?_eq_some] at counted ⊢
    exact counted

/-- An agent whose model only ever calls one tool, which always asks for a retry. -/
def insistent : Agent Unit Unit String where
  complete _ world :=
    (.ended (.ok (.single "stage" ⟨.assistant, [], [.new "c" "t" []], none⟩ none)), world)
  model := "stage"
  systemPrompts := []
  tools := [⟨⟨"t", "", .null, none⟩, some 2, fun _ _ world => (.ended (.error ⟨"again"⟩), world)⟩]
  config := .standard
  toolChoice := none
  answer := .text id

example :
    let (outcome, p) := insistent.run () "r" (.ofPrompt "Is it?") false ()
    p.executions.map (fun x => (x.context.retry, x.context.lastAttempt)) =
        [(0, false), (1, false), (2, true)] ∧
      outcome.failure? = some (.run (.toolRetriesExceeded "t" 2 "again")) := by
  decide +kernel

end Agent

end Colloquy
