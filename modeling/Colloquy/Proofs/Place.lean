/-! # Places in lists

A place in a list is given by what comes before an element, the element, and what comes after it.
Where the places of a list come from: a list that grows at its end, a list of lists, and the place
that a count of the elements before it determines. -/

namespace Colloquy

variable {α β : Type}

/-- A place in a list with a new last element is that element or a place in the list without it. -/
theorem split_concat {xs before after : List α} {x y : α}
    (split : xs ++ [y] = before ++ x :: after) :
    (before = xs ∧ x = y ∧ after = []) ∨
      ∃ earlier, after = earlier ++ [y] ∧ xs = before ++ x :: earlier := by
  rcases List.eq_nil_or_concat after with rfl | ⟨earlier, z, rfl⟩
  · obtain ⟨same, last⟩ := List.append_inj' split rfl
    exact .inl ⟨same.symm, (List.singleton_inj.mp last).symm, rfl⟩
  · rw [List.concat_eq_append, ← List.cons_append, ← List.append_assoc] at split
    obtain ⟨same, last⟩ := List.append_inj' split rfl
    exact .inr ⟨earlier, by rw [List.concat_eq_append, List.singleton_inj.mp last], same⟩

/-- What holds of each element of a list and what comes before it holds of a longer list if it also
holds of the new element. -/
theorem forall_split_concat {P : List α → α → Prop} {xs : List α} {x : α}
    (earlier : ∀ before y after, xs = before ++ y :: after → P before y) (last : P xs x) :
    ∀ before y after, xs ++ [x] = before ++ y :: after → P before y := by
  intro before y after split
  rcases split_concat split with ⟨rfl, rfl, rfl⟩ | ⟨after, rfl, place⟩
  · exact last
  · exact earlier before y after place

/-- A place in the lists that the elements of a list stand for is a place in one of them. -/
theorem exists_split_flatMap {f : α → List β} {xs : List α} {before after : List β} {y : β}
    (split : xs.flatMap f = before ++ y :: after) :
    ∃ xsBefore x xsAfter ysBefore ysAfter, xs = xsBefore ++ x :: xsAfter ∧
      f x = ysBefore ++ y :: ysAfter ∧ before = xsBefore.flatMap f ++ ysBefore ∧
      after = ysAfter ++ xsAfter.flatMap f := by
  induction xs generalizing before with
  | nil => simp at split
  | cons x xs ih =>
    rw [List.flatMap_cons, List.append_eq_append_iff] at split
    rcases split with ⟨rest, rfl, later⟩ | ⟨rest, here, later⟩
    · obtain ⟨xsBefore, z, xsAfter, ysBefore, ysAfter, rfl, place, rfl, rfl⟩ := ih later
      exact ⟨x :: xsBefore, z, xsAfter, ysBefore, ysAfter, rfl, place, by simp, rfl⟩
    · cases rest with
      | nil =>
        -- The place is the first one of what the later elements stand for.
        obtain ⟨xsBefore, z, xsAfter, ysBefore, ysAfter, rfl, place, none, rfl⟩ :=
          @ih [] later.symm
        refine ⟨x :: xsBefore, z, xsAfter, ysBefore, ysAfter, rfl, place, ?_, rfl⟩
        rw [List.flatMap_cons, List.append_assoc, ← none, here]
        simp
      | cons z rest =>
        obtain ⟨rfl, rfl⟩ := List.cons.inj later
        exact ⟨[], x, xs, before, rest, rfl, here, rfl, rfl⟩

/-- Where more than some number of elements count, one of them comes after just as many. -/
theorem exists_split_of_lt_countP {p : α → Bool} {xs : List α} {n : Nat} (h : n < xs.countP p) :
    ∃ before x after, xs = before ++ x :: after ∧ p x = true ∧ before.countP p = n := by
  induction xs generalizing n with
  | nil => exact absurd h (Nat.not_lt_zero n)
  | cons x xs ih =>
    by_cases counts : p x = true
    · rw [List.countP_cons_of_pos counts] at h
      cases n with
      | zero => exact ⟨[], x, xs, rfl, counts, rfl⟩
      | succ n =>
        obtain ⟨before, y, after, rfl, counted, count⟩ := ih (Nat.lt_of_succ_lt_succ h)
        exact ⟨x :: before, y, after, rfl, counted, by rw [List.countP_cons_of_pos counts, count]⟩
    · rw [List.countP_cons_of_neg counts] at h
      obtain ⟨before, y, after, rfl, counted, count⟩ := ih h
      exact ⟨x :: before, y, after, rfl, counted, by rw [List.countP_cons_of_neg counts, count]⟩

end Colloquy
