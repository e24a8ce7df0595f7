import Colloquy.Proofs.Except
import Colloquy.Usage
import Mathlib.Algebra.Ring.Nat
import Mathlib.Data.List.Induction

/-! # Ceilings and sums of usage

When a ceiling refuses a count, and what a sum of usages comes to.  Token counts are words of 32
bits; `Usage.toNat_sum` says what each count of a sum is as a number, and so that it is the sum of
the counts wherever that fits into a word. -/

namespace Colloquy

namespace UsageLimits

variable {kind : UsageLimitKind} {limit : UInt32} {observed : Nat} {crossed : Bool}
  {l : UsageLimitExceeded}

/-- `refuse` fails for a count that crosses the ceiling, unless that is zero. -/
theorem refuse_eq_error : refuse kind limit observed crossed = .error l ↔
    0 < limit.toNat ∧ crossed = true ∧ l = ⟨kind, observed, limit.toNat⟩ := by
  rw [refuse]
  split
  · next refused =>
    rw [Except.error.injEq]
    exact ⟨fun same => ⟨refused.1, refused.2, same.symm⟩, fun h => h.2.2.symm⟩
  · next allowed => exact ⟨nofun, fun h => absurd ⟨h.1, h.2.1⟩ allowed⟩

/-- `refuse` passes a count that does not cross the ceiling, and any count if that is zero. -/
theorem refuse_eq_ok : refuse kind limit observed crossed = .ok () ↔
    (0 < limit.toNat → crossed = false) := by
  rw [refuse]
  split
  · next refused =>
    exact ⟨nofun, fun h => absurd (h refused.1) (by simp [refused.2])⟩
  · next allowed =>
    refine ⟨fun _ limited => ?_, fun _ => rfl⟩
    rw [← Bool.not_eq_true]
    exact fun exceeds => allowed ⟨limited, exceeds⟩

/-- `checkBeforeRequest` fails where as many requests were sent as the ceiling allows. -/
theorem checkBeforeRequest_eq_error {limits : UsageLimits} :
    limits.checkBeforeRequest observed = .error l ↔
      0 < limits.requestLimit.toNat ∧ limits.requestLimit.toNat ≤ observed ∧
        l = ⟨.requests, observed, limits.requestLimit.toNat⟩ := by
  rw [checkBeforeRequest, refuse_eq_error, decide_eq_true_eq]

/-- `checkBeforeRequest` passes where fewer requests were sent than the ceiling allows. -/
theorem checkBeforeRequest_eq_ok {limits : UsageLimits} :
    limits.checkBeforeRequest observed = .ok () ↔
      (0 < limits.requestLimit.toNat → observed < limits.requestLimit.toNat) := by
  rw [checkBeforeRequest, refuse_eq_ok, decide_eq_false_iff_not, Nat.not_le]

/-- `checkCompletionTokens` fails if the tokens of a response are more than the ceiling. -/
theorem checkCompletionTokens_eq_error {limits : UsageLimits} :
    limits.checkCompletionTokens observed = .error l ↔
      0 < limits.completionTokensLimit.toNat ∧ limits.completionTokensLimit.toNat < observed ∧
        l = ⟨.completionTokens, observed, limits.completionTokensLimit.toNat⟩ := by
  rw [checkCompletionTokens, refuse_eq_error, decide_eq_true_eq]

/-- `checkToolCalls` fails once the executions are more than the ceiling. -/
theorem checkToolCalls_eq_error {limits : UsageLimits} :
    limits.checkToolCalls observed = .error l ↔
      0 < limits.toolCallsLimit.toNat ∧ limits.toolCallsLimit.toNat < observed ∧
        l = ⟨.toolCalls, observed, limits.toolCallsLimit.toNat⟩ := by
  rw [checkToolCalls, refuse_eq_error, decide_eq_true_eq]

/-- The ceiling that the tokens of a response cross, if they do. -/
def excess? (limits : UsageLimits) (usage : Option Usage) : Option UsageLimitExceeded :=
  usage.bind fun u => (limits.checkCompletionTokens u.completionTokens.toNat).failure?

/-- The tokens of a response cross a ceiling if there is one and they are more. -/
theorem excess?_eq_some {limits : UsageLimits} {usage : Option Usage} :
    limits.excess? usage = some l ↔ ∃ u, usage = some u ∧
      0 < limits.completionTokensLimit.toNat ∧
      limits.completionTokensLimit.toNat < u.completionTokens.toNat ∧
      l = ⟨.completionTokens, u.completionTokens.toNat, limits.completionTokensLimit.toNat⟩ := by
  simp only [excess?, Option.bind_eq_some_iff, Except.failure?_eq_some,
    checkCompletionTokens_eq_error]

/-- The tokens of a response cross no ceiling if there is none or they are no more. -/
theorem excess?_eq_none {limits : UsageLimits} {usage : Option Usage} :
    limits.excess? usage = Option.none ↔ ∀ u, usage = some u →
      0 < limits.completionTokensLimit.toNat →
      u.completionTokens.toNat ≤ limits.completionTokensLimit.toNat := by
  rw [Option.eq_none_iff_forall_ne_some]
  simp only [ne_eq, excess?_eq_some]
  constructor
  · intro h u same limited
    by_contra exceeds
    exact h _ ⟨u, same, limited, Nat.lt_of_not_le exceeds, rfl⟩
  · rintro h l ⟨u, same, limited, exceeds, -⟩
    exact absurd (h u same limited) (Nat.not_le_of_lt exceeds)

end UsageLimits

namespace Usage

/-- Adding nothing changes nothing. -/
@[simp] theorem add_zero (u : Usage) : u + .zero = u := by
  change Usage.mk (u.promptTokens + 0) (u.completionTokens + 0) (u.totalTokens + 0) = u
  simp

/-- The sum of usages, each count modulo `2 ^ 32`. -/
def sum (us : List Usage) : Usage := us.foldl (· + ·) .zero

/-- One more usage is added to a sum. -/
theorem sum_concat (us : List Usage) (u : Usage) : sum (us ++ [u]) = sum us + u := by
  rw [sum, List.foldl_concat, sum]

/-- The usage of one more element, if it has any, is added to a sum. -/
theorem sum_filterMap_concat {α : Type} (f : α → Option Usage) (xs : List α) (x : α) :
    sum ((xs ++ [x]).filterMap f) = sum (xs.filterMap f) + (f x).getD .zero := by
  rw [List.filterMap_append]
  cases tokens : f x with
  | none => simp [tokens]
  | some u => simp [tokens, sum_concat]

/-- A usage has the sum of each count of some usages, as far as a word can hold it. -/
structure Totals (us : List Usage) (u : Usage) : Prop where
  /-- Tokens of the requests. -/
  promptTokens : (us.map fun v => v.promptTokens.toNat).sum < UInt32.size →
    u.promptTokens.toNat = (us.map fun v => v.promptTokens.toNat).sum
  /-- Tokens of the responses. -/
  completionTokens : (us.map fun v => v.completionTokens.toNat).sum < UInt32.size →
    u.completionTokens.toNat = (us.map fun v => v.completionTokens.toNat).sum
  /-- Tokens of both. -/
  totalTokens : (us.map fun v => v.totalTokens.toNat).sum < UInt32.size →
    u.totalTokens.toNat = (us.map fun v => v.totalTokens.toNat).sum

/-- A count of a sum is the sum of the counts, up to multiples of the size of a word. -/
theorem toNat_sum {count : Usage → UInt32} (zero : count .zero = 0)
    (add : ∀ u v, count (u + v) = count u + count v) (us : List Usage) :
    (count (sum us)).toNat = (us.map fun u => (count u).toNat).sum % UInt32.size := by
  induction us using List.reverseRecOn with
  | nil =>
    rw [sum, List.foldl_nil, zero]
    rfl
  | append_singleton us u ih =>
    rw [sum_concat, add, UInt32.toNat_add, ih, List.map_append, List.sum_append]
    simp

/-- **`sum us` has the totals of `us`.** -/
theorem totals_sum (us : List Usage) : Totals us (sum us) where
  promptTokens fits := by
    rw [toNat_sum rfl (fun _ _ => rfl), Nat.mod_eq_of_lt fits]
  completionTokens fits := by
    rw [toNat_sum rfl (fun _ _ => rfl), Nat.mod_eq_of_lt fits]
  totalTokens fits := by
    rw [toNat_sum rfl (fun _ _ => rfl), Nat.mod_eq_of_lt fits]

end Usage

end Colloquy
