/-! # Times

A `Duration` is a length of time and an `Instant` a reading of the clock, both in nanoseconds.  Both
have a last value: the seconds of a `Duration` fill a word of 64 bits, those of an `Instant` a word
of 64 bits with a sign.  `Duration.scale?` and `Instant.after?` have no result beyond it. -/

namespace Colloquy.Http

/-- A length of time of `nanos` nanoseconds, less than `2 ^ 64` seconds. -/
@[ext] structure Duration where
  /-- The nanoseconds. -/
  nanos : Nat
  /-- The seconds among them fit 64 bits. -/
  fits : nanos < 18446744073709551616000000000
deriving DecidableEq, Repr

namespace Duration

/-- The first number of nanoseconds that is no `Duration`. -/
def limit : Nat := 18446744073709551616000000000

/-- No time at all. -/
def zero : Duration := ⟨0, by decide⟩

/-- The length of time of `n` nanoseconds, if there is one. -/
def ofNanos? (n : Nat) : Option Duration :=
  if h : n < 18446744073709551616000000000 then some ⟨n, h⟩ else none

/-- `n` seconds. -/
def ofSeconds (n : UInt64) : Duration :=
  ⟨n.toNat * 1000000000, by have := n.toNat_lt; omega⟩

/-- `n` milliseconds. -/
def ofMilliseconds (n : UInt64) : Duration :=
  ⟨n.toNat * 1000000, by have := n.toNat_lt; omega⟩

/-- The whole seconds in `d`. -/
def wholeSeconds (d : Duration) : Nat := d.nanos / 1000000000

/-- `d` taken `factor` times; `none` from `Duration.limit` on. -/
def scale? (d : Duration) (factor : Nat) : Option Duration := ofNanos? (d.nanos * factor)

instance : LE Duration := ⟨fun a b => a.nanos ≤ b.nanos⟩

instance (a b : Duration) : Decidable (a ≤ b) := inferInstanceAs (Decidable (a.nanos ≤ b.nanos))

instance : Min Duration := ⟨fun a b => if a ≤ b then a else b⟩

theorem le_iff {a b : Duration} : a ≤ b ↔ a.nanos ≤ b.nanos := Iff.rfl

@[simp] theorem nanos_ofSeconds (n : UInt64) : (ofSeconds n).nanos = n.toNat * 1000000000 := rfl

/-- `(min a b).nanos = min a.nanos b.nanos`. -/
@[simp] theorem nanos_min (a b : Duration) : (min a b).nanos = min a.nanos b.nanos := by
  show (if a ≤ b then a else b).nanos = _
  by_cases h : a ≤ b
  · rw [if_pos h, Nat.min_eq_left h]
  · rw [if_neg h, Nat.min_eq_right (Nat.le_of_not_le h)]

/-- `ofNanos? n` is the `Duration` of `n` nanoseconds. -/
theorem ofNanos?_eq_some {n : Nat} {d : Duration} : ofNanos? n = some d ↔ d.nanos = n := by
  unfold ofNanos?
  constructor
  · intro h
    split at h
    · obtain rfl := Option.some.inj h
      rfl
    · cases h
  · rintro rfl
    rw [dif_pos d.fits]

/-- `ofNanos? n = none` exactly from `Duration.limit` on. -/
theorem ofNanos?_eq_none {n : Nat} : ofNanos? n = none ↔ limit ≤ n := by
  unfold ofNanos? limit
  split <;> simp <;> omega

end Duration

/-- A reading of the clock, `nanos` nanoseconds after its start, which is less than `2 ^ 63`
seconds. -/
@[ext] structure Instant where
  /-- The nanoseconds. -/
  nanos : Nat
  /-- The seconds among them fit 64 bits with a sign. -/
  fits : nanos < 9223372036854775808000000000
deriving DecidableEq, Repr

namespace Instant

/-- The first number of nanoseconds that is no `Instant`. -/
def limit : Nat := 9223372036854775808000000000

/-- The start of the clock. -/
def start : Instant := ⟨0, by decide⟩

/-- The time when `d` has passed after `i`; `none` from `Instant.limit` on. -/
def after? (i : Instant) (d : Duration) : Option Instant :=
  if h : i.nanos + d.nanos < 9223372036854775808000000000 then some ⟨i.nanos + d.nanos, h⟩ else none

/-- The time left at `i` until `deadline`, which is no time at all once the deadline has passed. -/
def timeTo (i deadline : Instant) : Duration :=
  ⟨deadline.nanos - i.nanos, by have := deadline.fits; omega⟩

@[simp] theorem nanos_timeTo (i deadline : Instant) :
    (i.timeTo deadline).nanos = deadline.nanos - i.nanos := rfl

/-- Nothing is left exactly if the deadline has come. -/
theorem timeTo_eq_zero {i deadline : Instant} :
    i.timeTo deadline = .zero ↔ deadline.nanos ≤ i.nanos := by
  rw [Duration.ext_iff]
  show deadline.nanos - i.nanos = 0 ↔ _
  omega

/-- `i.after? d` is the `Instant` of `i.nanos + d.nanos` nanoseconds. -/
theorem after?_eq_some {i j : Instant} {d : Duration} :
    i.after? d = some j ↔ j.nanos = i.nanos + d.nanos := by
  unfold after?
  constructor
  · intro h
    split at h
    · obtain rfl := Option.some.inj h
      rfl
    · cases h
  · intro h
    have fits : i.nanos + d.nanos < 9223372036854775808000000000 := h ▸ j.fits
    rw [dif_pos fits, Option.some.injEq, Instant.ext_iff]
    exact h.symm

/-- `i.after? d = none` exactly from `Instant.limit` on. -/
theorem after?_eq_none {i : Instant} {d : Duration} :
    i.after? d = none ↔ limit ≤ i.nanos + d.nanos := by
  unfold after? limit
  split <;> simp <;> omega

end Instant

end Colloquy.Http
