import Mathlib.Data.List.Forall2

/-! # Computations that can fail

How steps that can fail come to a result or to a failure, and when two computations agree: they come
to the same result, or to failures that belong together.  More loosely, two computations are related
if their results are, or their failures. -/

namespace Except

variable {ε ε' α β : Type}

/-- The failure, if there is one. -/
def failure? : Except ε α → Option ε
  | .ok _ => none
  | .error e => some e

/-- There is a failure if there is no result. -/
theorem failure?_eq_some {x : Except ε α} {e : ε} : x.failure? = some e ↔ x = .error e := by
  cases x <;> simp [failure?]

/-- `x >>= f` succeeds if `x` does, and then `f`. -/
theorem bind_eq_ok {x : Except ε α} {f : α → Except ε β} {b : β} :
    (x >>= f) = .ok b ↔ ∃ a, x = .ok a ∧ f a = .ok b := by
  cases x with
  | error e => simp [bind, Except.bind]
  | ok a => simp [bind, Except.bind]

/-- `f <$> x` succeeds if `x` does. -/
theorem map_eq_ok {f : α → β} {x : Except ε α} {b : β} :
    x.map f = .ok b ↔ ∃ a, x = .ok a ∧ f a = b := by
  cases x with
  | error e => simp [Except.map]
  | ok a => simp [Except.map]

/-- `x.mapError f` succeeds if `x` does, with the same result. -/
theorem mapError_eq_ok {f : ε → ε'} {x : Except ε α} {a : α} :
    x.mapError f = .ok a ↔ x = .ok a := by
  cases x with
  | error e => exact ⟨nofun, nofun⟩
  | ok a => exact ⟨fun h => congrArg _ (ok.inj h), fun h => congrArg _ (ok.inj h)⟩

/-- `xs.mapM f` comes to the results of `f`, element by element. -/
theorem mapM_eq_ok {f : α → Except ε β} {xs : List α} {ys : List β} :
    xs.mapM f = .ok ys ↔ List.Forall₂ (fun x y => f x = .ok y) xs ys := by
  induction xs generalizing ys with
  | nil => exact ⟨fun h => ok.inj h ▸ .nil, fun h => by cases h; rfl⟩
  | cons x xs ih =>
    simp only [List.mapM_cons, bind_eq_ok, List.forall₂_cons_left_iff]
    constructor
    · rintro ⟨y, first, ys', others, same⟩
      exact ⟨y, ys', first, ih.mp others, (ok.inj same).symm⟩
    · rintro ⟨y, ys', first, others, rfl⟩
      exact ⟨y, first, ys', ih.mpr others, rfl⟩

/-- Each result in `xs.mapM f` is that of `f` for some element. -/
theorem exists_of_mem_of_mapM {f : α → Except ε β} {xs : List α} {ys : List β}
    (h : xs.mapM f = .ok ys) {y : β} (mem : y ∈ ys) : ∃ x ∈ xs, f x = .ok y := by
  have each := mapM_eq_ok.mp h
  induction each with
  | nil => cases mem
  | cons first others ih =>
    rcases List.mem_cons.mp mem with rfl | later
    · exact ⟨_, List.mem_cons_self, first⟩
    · obtain ⟨x, mem, same⟩ := ih (mapM_eq_ok.mpr others) later
      exact ⟨x, List.mem_cons_of_mem _ mem, same⟩

/-- `xs.mapM f` is `xs.map g` if `f` comes to `g` for each element. -/
theorem mapM_eq_ok_map {f : α → Except ε β} {g : α → β} {xs : List α}
    (each : ∀ x ∈ xs, f x = .ok (g x)) : xs.mapM f = .ok (xs.map g) := by
  rw [mapM_eq_ok, List.forall₂_map_right_iff, List.forall₂_same]
  exact each

/-- **`xs.mapM f` fails as `f` does for the first element for which it fails.** -/
theorem mapM_eq_error {f : α → Except ε β} {xs : List α} {e : ε} :
    xs.mapM f = .error e ↔ ∃ before x after, xs = before ++ x :: after ∧
      (∀ y ∈ before, ∃ b, f y = .ok b) ∧ f x = .error e := by
  induction xs with
  | nil => exact ⟨nofun, fun ⟨before, x, after, split, _⟩ => by simp at split⟩
  | cons x xs ih =>
    rw [List.mapM_cons]
    cases first : f x with
    | error e' =>
      constructor
      · intro h
        exact ⟨[], x, xs, rfl, nofun, first.trans (congrArg _ (error.inj h))⟩
      · rintro ⟨before, y, after, split, fine, fails⟩
        cases before with
        | nil =>
          obtain ⟨rfl, rfl⟩ := List.cons.inj split
          rw [← first, fails]
          rfl
        | cons z before =>
          obtain ⟨rfl, rfl⟩ := List.cons.inj split
          obtain ⟨b, good⟩ := fine x List.mem_cons_self
          rw [first] at good
          cases good
    | ok b =>
      have later : (xs.mapM f >>= fun bs => .ok (b :: bs)) = .error e ↔ xs.mapM f = .error e := by
        cases xs.mapM f <;> simp [bind, Except.bind]
      refine later.trans (ih.trans ⟨?_, ?_⟩)
      · rintro ⟨before, y, after, rfl, fine, fails⟩
        exact ⟨x :: before, y, after, rfl, List.forall_mem_cons.mpr ⟨⟨b, first⟩, fine⟩, fails⟩
      · rintro ⟨before, y, after, split, fine, fails⟩
        cases before with
        | nil =>
          obtain ⟨rfl, rfl⟩ := List.cons.inj split
          rw [first] at fails
          cases fails
        | cons z before =>
          obtain ⟨rfl, rfl⟩ := List.cons.inj split
          exact ⟨before, y, after, rfl, (List.forall_mem_cons.mp fine).2, fails⟩

/-! ## Agreement -/

/-- Two computations that come to the same result, or to failures that are related. -/
inductive Agree (r : ε → ε' → Prop) : Except ε α → Except ε' α → Prop where
  /-- The same result. -/
  | ok (a : α) : Agree r (.ok a) (.ok a)
  /-- Related failures. -/
  | error {e : ε} {e' : ε'} (related : r e e') : Agree r (.error e) (.error e')

namespace Agree

variable {r r' : ε → ε' → Prop}

/-- Agreement up to some failures is agreement up to more. -/
theorem imp {x : Except ε α} {y : Except ε' α} (h : Agree r x y) (more : ∀ e e', r e e' → r' e e') :
    Agree r' x y := by
  cases h with
  | ok a => exact .ok a
  | error related => exact .error (more _ _ related)

/-- Two steps in a row agree if the first ones do, and the second ones after the same result. -/
theorem bind {x : Except ε α} {y : Except ε' α} {f : α → Except ε β} {g : α → Except ε' β}
    (h : Agree r x y) (next : ∀ a, Agree r (f a) (g a)) : Agree r (x >>= f) (y >>= g) := by
  cases h with
  | ok a => exact next a
  | error related => exact .error related

/-- **Doing one thing and doing another to each of a list agree** if they do for each; failures are
those of the first element for which there are any. -/
theorem mapM {r : α → ε → ε' → Prop} {f : α → Except ε β} {g : α → Except ε' β} {xs : List α}
    (h : ∀ x ∈ xs, Agree (r x) (f x) (g x)) :
    Agree (fun e e' => ∃ before x after, xs = before ++ x :: after ∧
      (∀ y ∈ before, ∃ b, f y = .ok b) ∧ r x e e') (xs.mapM f) (xs.mapM g) := by
  induction xs with
  | nil => exact .ok []
  | cons x xs ih =>
    obtain ⟨head, tail⟩ := List.forall_mem_cons.mp h
    rw [List.mapM_cons, List.mapM_cons]
    generalize first : f x = a at head
    generalize g x = b at head
    -- The traversals stop together at the first element that fails.
    cases head with
    | error related => exact .error ⟨[], x, xs, rfl, by simp, related⟩
    | ok y =>
      have later : Agree (fun e e' => ∃ before z after, x :: xs = before ++ z :: after ∧
          (∀ y ∈ before, ∃ b, f y = .ok b) ∧ r z e e') (xs.mapM f) (xs.mapM g) := by
        refine (ih tail).imp ?_
        rintro e e' ⟨before, z, after, rfl, fine, related⟩
        exact ⟨x :: before, z, after, rfl, List.forall_mem_cons.mpr ⟨⟨y, first⟩, fine⟩, related⟩
      exact later.bind fun ys => .ok (y :: ys)

end Agree

/-! ## Relatedness -/

/-- Two computations that come to results that are related, or to failures that are. -/
inductive Related {α' : Type} (r : ε → ε' → Prop) (R : α → α' → Prop) :
    Except ε α → Except ε' α' → Prop where
  /-- Related results. -/
  | ok {a : α} {a' : α'} (related : R a a') : Related r R (.ok a) (.ok a')
  /-- Related failures. -/
  | error {e : ε} {e' : ε'} (related : r e e') : Related r R (.error e) (.error e')

namespace Related

variable {α' β' : Type} {r : ε → ε' → Prop} {R : α → α' → Prop} {S : β → β' → Prop}

/-- A result is related to results only. -/
theorem exists_of_ok {a : α} {y : Except ε' α'} (h : Related r R (.ok a) y) :
    ∃ b, y = .ok b ∧ R a b := by
  cases h with
  | ok related => exact ⟨_, rfl, related⟩

/-- A failure is related to failures only. -/
theorem exists_of_error {e : ε} {y : Except ε' α'} (h : Related r R (.error e) y) :
    ∃ e', y = .error e' ∧ r e e' := by
  cases h with
  | error related => exact ⟨_, rfl, related⟩

/-- What is related in one way is in a looser one. -/
theorem imp {R' : α → α' → Prop} {x : Except ε α} {y : Except ε' α'} (h : Related r R x y)
    (looser : ∀ a a', R a a' → R' a a') : Related r R' x y := by
  cases h with
  | ok related => exact .ok (looser _ _ related)
  | error related => exact .error related

/-- Two steps in a row are related if the first ones are, and the second ones after related
results. -/
theorem bind {x : Except ε α} {y : Except ε' α'} {f : α → Except ε β} {g : α' → Except ε' β'}
    (h : Related r R x y) (next : ∀ a a', R a a' → Related r S (f a) (g a')) :
    Related r S (x >>= f) (y >>= g) := by
  cases h with
  | ok related => exact next _ _ related
  | error related => exact .error related

/-- Results stay related if both are reworded alike. -/
theorem map {x : Except ε α} {y : Except ε' α'} {f : α → β} {g : α' → β'} (h : Related r R x y)
    (next : ∀ a a', R a a' → S (f a) (g a')) : Related r S (x.map f) (y.map g) := by
  cases h with
  | ok related => exact .ok (next _ _ related)
  | error related => exact .error related

/-- Failures stay related if both are reworded alike. -/
theorem mapError {η η' : Type} {q : η → η' → Prop} {x : Except ε α} {y : Except ε' α'}
    {f : ε → η} {g : ε' → η'} (h : Related r R x y) (next : ∀ e e', r e e' → q (f e) (g e')) :
    Related q R (x.mapError f) (y.mapError g) := by
  cases h with
  | ok related => exact .ok related
  | error related => exact .error (next _ _ related)

/-- A computation is related to itself if its results are, and its failures. -/
theorem refl {r : ε → ε → Prop} {R : α → α → Prop} (failures : ∀ e, r e e) (results : ∀ a, R a a)
    (x : Except ε α) : Related r R x x := by
  cases x with
  | ok a => exact .ok (results a)
  | error e => exact .error (failures e)

/-- **Doing related things to the elements of related lists** comes to related lists. -/
theorem mapM {P : α → α' → Prop} {xs : List α} {ys : List α'} {f : α → Except ε β}
    {g : α' → Except ε' β'} (each : ∀ x y, P x y → Related r S (f x) (g y))
    (h : List.Forall₂ P xs ys) : Related r (List.Forall₂ S) (xs.mapM f) (ys.mapM g) := by
  induction h with
  | nil => exact .ok .nil
  | cons first _ ih =>
    rw [List.mapM_cons, List.mapM_cons]
    refine (each _ _ first).bind fun b b' related => ih.bind fun bs bs' others => ?_
    exact .ok (.cons related others)

end Related

end Except
