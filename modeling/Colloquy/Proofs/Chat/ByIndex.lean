import Colloquy.Chat.Assembly
import Colloquy.Proofs.Except
import Mathlib.Data.List.Induction

/-! # Values by index

The lists that keep values by index are ascending, `ByIndex.Ascending`, and an ascending list is
known by what stands at each index (`ByIndex.ext`).  `ByIndex.ofList` keeps the elements of a list
by their positions, and `ByIndex.gather` takes elements up in any order; the main statement,
`ByIndex.find?_gather`, is that at each index stands what the elements of that index come to,
whatever stands between them. -/

namespace Colloquy.ByIndex

variable {α β : Type} {m n : ByIndex α} {i j : UInt32} {a : α}

/-- The indices are strictly ascending. -/
def Ascending (m : ByIndex α) : Prop := m.Pairwise fun p q => p.1 < q.1

/-- What is below the first index is below all of them. -/
theorem Ascending.lt_of_lt {q : UInt32 × α} (hm : Ascending (q :: m)) (below : i < q.1) :
    ∀ p ∈ q :: m, i < p.1 := by
  refine List.forall_mem_cons.mpr ⟨below, fun p hp => ?_⟩
  exact UInt32.lt_trans below ((List.pairwise_cons.mp hm).1 p hp)

/-! ## Finding values -/

/-- `find?` finds nothing below the first index. -/
theorem find?_eq_none_of_lt (h : ∀ p ∈ m, i < p.1) : find? i m = none := by
  induction m with
  | nil => rfl
  | cons p m ih =>
    obtain ⟨first, rest⟩ := List.forall_mem_cons.mp h
    rw [find?, if_neg (UInt32.ne_of_lt first), ih rest]

/-- What `find?` finds stands in the list. -/
theorem mem_of_find? (h : find? i m = some a) : (i, a) ∈ m := by
  induction m with
  | nil => cases h
  | cons p m ih =>
    rw [find?] at h
    by_cases same : i = p.1
    · rw [if_pos same] at h
      obtain rfl := Option.some.inj h
      rw [same]
      exact List.mem_cons_self
    · rw [if_neg same] at h
      exact List.mem_cons_of_mem _ (ih h)

/-- **In an ascending list `find?` finds exactly what stands there.** -/
theorem find?_eq_some (hm : Ascending m) : find? i m = some a ↔ (i, a) ∈ m := by
  refine ⟨mem_of_find?, fun h => ?_⟩
  induction m with
  | nil => cases h
  | cons p m ih =>
    obtain ⟨first, rest⟩ := List.pairwise_cons.mp hm
    rw [find?]
    rcases List.mem_cons.mp h with rfl | h
    · rw [if_pos rfl]
    · have above : p.1 < i := first _ h
      rw [if_neg (UInt32.ne_of_lt above).symm, ih rest h]

/-- **Ascending lists are equal if `find?` agrees at each index.** -/
theorem ext (hm : Ascending m) (hn : Ascending n) (h : ∀ i, find? i m = find? i n) : m = n := by
  induction m generalizing n with
  | nil =>
    cases n with
    | nil => rfl
    | cons q n =>
      have found := h q.1
      rw [find?, find?, if_pos rfl] at found
      cases found
  | cons p m ih =>
    cases n with
    | nil =>
      have found := h p.1
      rw [find?, find?, if_pos rfl] at found
      cases found
    | cons q n =>
      obtain ⟨i, a⟩ := p
      obtain ⟨j, b⟩ := q
      obtain ⟨firstm, restm⟩ := List.pairwise_cons.mp hm
      obtain ⟨firstn, restn⟩ := List.pairwise_cons.mp hn
      have hi : some a = find? i ((j, b) :: n) := by rw [← h i, find?, if_pos rfl]
      have hj : find? j ((i, a) :: m) = some b := by rw [h j, find?, if_pos rfl]
      -- The first indices are equal, as each is found in the other list.
      have same : i = j := by
        by_contra other
        rcases UInt32.lt_or_lt_of_ne other with below | above
        · rw [find?_eq_none_of_lt (hn.lt_of_lt below)] at hi
          cases hi
        · rw [find?_eq_none_of_lt (hm.lt_of_lt above)] at hj
          cases hj
      subst same
      rw [find?, if_pos rfl] at hi
      obtain rfl := Option.some.inj hi
      rw [ih restm restn]
      intro k
      by_cases top : k = i
      · rw [top, find?_eq_none_of_lt firstm, find?_eq_none_of_lt firstn]
      · have later := h k
        rwa [find?, find?, if_neg top, if_neg top] at later

/-! ## Treating each value -/

variable {ε γ : Type} {treat : UInt32 → α → Except ε γ}

/-- Whether there is one thing for each index of a kind and none besides, in strictly ascending
order of the indices, and each is as is said of its index. -/
def InOrder (mentioned : UInt32 → Prop) (said : UInt32 → γ → Prop) (ys : List γ) : Prop :=
  ∃ js : List UInt32, js.Pairwise (· < ·) ∧ (∀ j, j ∈ js ↔ mentioned j) ∧ List.Forall₂ said js ys

/-- Things are in order also if what is said of them is put differently. -/
theorem InOrder.imp {mentioned mentioned' : UInt32 → Prop} {said said' : UInt32 → γ → Prop}
    {ys : List γ} (h : InOrder mentioned said ys) (same : ∀ j, mentioned j ↔ mentioned' j)
    (more : ∀ j y, said j y → said' j y) : InOrder mentioned' said' ys := by
  obtain ⟨js, ascending, indices, each⟩ := h
  exact ⟨js, ascending, fun j => (indices j).trans (same j), each.imp more⟩

/-- There is one thing for each index. -/
theorem InOrder.exists_of_mentioned {mentioned : UInt32 → Prop} {said : UInt32 → γ → Prop}
    {ys : List γ} (h : InOrder mentioned said ys) {j : UInt32} (hj : mentioned j) :
    ∃ y ∈ ys, said j y := by
  obtain ⟨js, -, indices, each⟩ := h
  have mem := (indices j).mpr hj
  clear indices
  induction each with
  | nil => cases mem
  | @cons i y _ _ here _ ih =>
    rcases List.mem_cons.mp mem with rfl | mem
    · exact ⟨y, List.mem_cons_self, here⟩
    · obtain ⟨z, hz, there⟩ := ih mem
      exact ⟨z, List.mem_cons_of_mem _ hz, there⟩

/-- If each value can be treated, the results are in order. -/
theorem inOrder_of_mapM_eq_ok (hm : Ascending m) {ys : List γ}
    (treated : m.mapM (fun p => treat p.1 p.2) = .ok ys) :
    InOrder (fun i => ∃ a, find? i m = some a)
      (fun i y => ∃ a, find? i m = some a ∧ treat i a = .ok y) ys := by
  refine ⟨m.map Prod.fst, List.pairwise_map.mpr hm, fun i => ?_, ?_⟩
  · simp only [find?_eq_some hm, List.mem_map, Prod.exists, exists_and_right, exists_eq_right]
  · rw [List.forall₂_map_left_iff]
    have each :=
      (List.forall₂_and_left _ _).mpr ⟨fun p hp => hp, Except.mapM_eq_ok.mp treated⟩
    exact each.imp fun p y h => ⟨p.2, (find?_eq_some hm).mpr h.1, h.2⟩

/-- Treating each value fails for the one of the lowest index for which it fails. -/
theorem mapM_eq_error (hm : Ascending m) {e : ε} :
    m.mapM (fun p => treat p.1 p.2) = .error e ↔
      ∃ i a, find? i m = some a ∧ treat i a = .error e ∧
        ∀ j < i, ∀ b, find? j m = some b → ∃ y, treat j b = .ok y := by
  rw [Except.mapM_eq_error]
  constructor
  · rintro ⟨before, ⟨i, a⟩, after, rfl, fine, fails⟩
    refine ⟨i, a, (find?_eq_some hm).mpr (by simp), fails, fun j below b found => ?_⟩
    -- What is found below the index stands before it.
    obtain ⟨-, later, -⟩ := List.pairwise_append.mp hm
    rcases List.mem_append.mp (mem_of_find? found) with mem | mem
    · exact fine _ mem
    · rcases List.mem_cons.mp mem with same | mem
      · obtain ⟨rfl, -⟩ := Prod.mk.inj same
        exact absurd below (UInt32.lt_irrefl j)
      · exact absurd below (UInt32.lt_asymm ((List.pairwise_cons.mp later).1 _ mem))
  · rintro ⟨i, a, found, fails, fine⟩
    obtain ⟨before, after, rfl⟩ := List.append_of_mem (mem_of_find? found)
    refine ⟨before, (i, a), after, rfl, fun p hp => ?_, fails⟩
    obtain ⟨-, -, across⟩ := List.pairwise_append.mp hm
    exact fine p.1 (across p hp _ List.mem_cons_self) p.2
      ((find?_eq_some hm).mpr (List.mem_append_left _ hp))

/-- **Treating each value gives results in order, or fails for the lowest index** for which it
fails. -/
theorem mapM_cases (treat : UInt32 → α → Except ε γ) (hm : Ascending m)
    {mentioned : UInt32 → Prop} {value : UInt32 → α}
    (stands : ∀ i a, find? i m = some a ↔ mentioned i ∧ value i = a) :
    (∃ ys, m.mapM (fun p => treat p.1 p.2) = .ok ys ∧
        InOrder mentioned (fun i y => mentioned i ∧ treat i (value i) = .ok y) ys) ∨
      ∃ i e, mentioned i ∧ treat i (value i) = .error e ∧
        (∀ j < i, mentioned j → ∃ y, treat j (value j) = .ok y) ∧
        m.mapM (fun p => treat p.1 p.2) = .error e := by
  cases treated : m.mapM fun p => treat p.1 p.2 with
  | ok ys =>
    refine .inl ⟨ys, rfl, (inOrder_of_mapM_eq_ok hm treated).imp ?_ ?_⟩
    · simp [stands]
    · rintro i y ⟨a, found, done⟩
      obtain ⟨there, rfl⟩ := (stands i a).mp found
      exact ⟨there, done⟩
  | error e =>
    obtain ⟨i, a, found, fails, fine⟩ := (mapM_eq_error hm).mp treated
    obtain ⟨there, rfl⟩ := (stands i a).mp found
    exact .inr ⟨i, e, there, fails, fun j below hj => fine j below _ ((stands j _).mpr ⟨hj, rfl⟩),
      rfl⟩

/-! ## Values by position -/

/-- What becomes of the elements of a list, by their positions. -/
def ofList (f : β → α) (xs : List β) : ByIndex α :=
  xs.zipIdx.map fun p => (UInt32.ofNat p.2, f p.1)

/-- Positions are indices, unless there are too many. -/
theorem toNat_position {xs : List β} (fits : xs.length ≤ UInt32.size) {k : Nat} {x : β}
    (there : xs[k]? = some x) : (UInt32.ofNat k).toNat = k := by
  obtain ⟨short, -⟩ := List.getElem?_eq_some_iff.mp there
  exact UInt32.toNat_ofNat_of_lt' (Nat.lt_of_lt_of_le short fits)

/-- Positions ascend. -/
theorem ascending_ofList (f : β → α) {xs : List β} (fits : xs.length ≤ UInt32.size) :
    Ascending (ofList f xs) := by
  rw [Ascending, ofList, List.pairwise_map, List.pairwise_iff_getElem]
  intro k l hk hl below
  rw [List.length_zipIdx] at hk hl
  rw [UInt32.lt_iff_toNat_lt, List.getElem_zipIdx, List.getElem_zipIdx, Nat.zero_add, Nat.zero_add,
    toNat_position fits (List.getElem?_eq_getElem hk),
    toNat_position fits (List.getElem?_eq_getElem hl)]
  exact below

/-- **At each position stands what becomes of the element there.** -/
theorem find?_ofList (f : β → α) {xs : List β} (fits : xs.length ≤ UInt32.size) (i : UInt32) :
    find? i (ofList f xs) = xs[i.toNat]?.map f := by
  cases there : xs[i.toNat]? with
  | some x =>
    refine (find?_eq_some (ascending_ofList f fits)).mpr (List.mem_map.mpr ⟨(x, i.toNat), ?_⟩)
    exact ⟨List.mem_zipIdx_iff_getElem?.mpr there, by rw [UInt32.ofNat_toNat]⟩
  | none =>
    rw [Option.map_none, Option.eq_none_iff_forall_ne_some]
    intro a found
    obtain ⟨⟨x, k⟩, mem, same⟩ := List.mem_map.mp (mem_of_find? found)
    have there' := List.mem_zipIdx_iff_getElem?.mp mem
    have position : UInt32.ofNat k = i := congrArg Prod.fst same
    rw [← position, toNat_position fits there', there'] at there
    cases there

/-- **Elements and the values at their positions are treated alike** if each element is; failures
are those of the first element for which there are any. -/
theorem agree_mapM_ofList {ε ε' γ : Type} {r : β → UInt32 → ε → ε' → Prop} {f : β → α}
    {treat : β → Except ε γ} {treat' : UInt32 → α → Except ε' γ} {xs : List β}
    (fits : xs.length ≤ UInt32.size)
    (h : ∀ x i, Except.Agree (r x i) (treat x) (treat' i (f x))) :
    Except.Agree (fun e e' => ∃ earlier x later, ∃ i : UInt32, xs = earlier ++ x :: later ∧
        i.toNat = earlier.length ∧ (∀ y ∈ earlier, ∃ z, treat y = .ok z) ∧ r x i e e')
      (xs.mapM treat) ((ofList f xs).mapM fun p => treat' p.1 p.2) := by
  have numbered : xs.mapM treat = xs.zipIdx.mapM fun p => treat p.1 := by
    conv => lhs; rw [← List.zipIdx_map_fst 0 xs, List.mapM_map]
    rfl
  rw [numbered, ofList, List.mapM_map]
  refine (Except.Agree.mapM fun p _ => h p.1 (UInt32.ofNat p.2)).imp ?_
  rintro e e' ⟨before, ⟨x, k⟩, after, split, fine, related⟩
  have elements : xs = before.map Prod.fst ++ x :: after.map Prod.fst := by
    rw [← List.zipIdx_map_fst 0 xs, split, List.map_append, List.map_cons]
  -- The position of the element is the number of the elements before it.
  have there : xs.zipIdx[before.length]? = some (x, k) := by
    rw [split, List.getElem?_append_right (Nat.le_refl _), Nat.sub_self, List.getElem?_cons_zero]
  rw [List.getElem?_zipIdx, Nat.zero_add] at there
  obtain ⟨y, found, same⟩ := Option.map_eq_some_iff.mp there
  obtain ⟨rfl, rfl⟩ := Prod.mk.inj same
  refine ⟨_, y, _, UInt32.ofNat before.length, elements, ?_, List.forall_mem_map.mpr fine, related⟩
  rw [toNat_position fits found, List.length_map]

/-! ## Changing values -/

variable {fresh : α} {f : α → α}

/-- `update` adds no index but its own. -/
theorem mem_update {p : UInt32 × α} (h : p ∈ update j fresh f m) : p.1 = j ∨ p ∈ m := by
  induction m with
  | nil =>
    rw [update, List.mem_singleton] at h
    exact .inl (congrArg Prod.fst h)
  | cons q m ih =>
    rw [update] at h
    split at h
    · rcases List.mem_cons.mp h with rfl | h
      · exact .inl rfl
      · exact .inr h
    · split at h
      · next same =>
        rcases List.mem_cons.mp h with rfl | h
        · exact .inl same.symm
        · exact .inr (List.mem_cons_of_mem _ h)
      · rcases List.mem_cons.mp h with rfl | h
        · exact .inr List.mem_cons_self
        · exact (ih h).imp_right (List.mem_cons_of_mem _)

/-- `update` keeps the list ascending. -/
theorem ascending_update (hm : Ascending m) : Ascending (update j fresh f m) := by
  induction m with
  | nil => exact List.pairwise_singleton _ _
  | cons q m ih =>
    obtain ⟨first, rest⟩ := List.pairwise_cons.mp hm
    rw [update]
    split
    · next below => exact List.pairwise_cons.mpr ⟨hm.lt_of_lt below, hm⟩
    · next notBelow =>
      split
      · exact List.pairwise_cons.mpr ⟨first, rest⟩
      · next other =>
        refine List.pairwise_cons.mpr ⟨fun p hp => ?_, ih rest⟩
        rcases mem_update hp with same | hp
        · rw [same]
          exact (UInt32.lt_or_lt_of_ne other).resolve_left notBelow
        · exact first p hp

/-- **`update` is seen at its index and nowhere else.** -/
theorem find?_update (hm : Ascending m) :
    find? i (update j fresh f m) =
      if i = j then some (f ((find? j m).getD fresh)) else find? i m := by
  induction m with
  | nil => rfl
  | cons q m ih =>
    obtain ⟨first, rest⟩ := List.pairwise_cons.mp hm
    rw [update]
    split
    · next below =>
      -- The index is new, so the change is made to the fresh value.
      rw [find?_eq_none_of_lt (hm.lt_of_lt below), find?, Option.getD_none]
    · split
      · next same =>
        subst same
        rw [find?, find?, find?, if_pos rfl, Option.getD_some]
        by_cases here : i = q.1
        · rw [if_pos here, if_pos here]
        · rw [if_neg here, if_neg here, if_neg here]
      · next other =>
        rw [find?, find?, find?, if_neg other, ih rest]
        by_cases here : i = q.1
        · rw [if_pos here, if_pos here, if_neg]
          rw [here]
          exact Ne.symm other
        · rw [if_neg here, if_neg here]

/-- `update` at an index above all others adds to the end. -/
theorem update_of_lt (above : ∀ p ∈ m, p.1 < j) : update j fresh f m = m ++ [(j, f fresh)] := by
  induction m with
  | nil => rfl
  | cons q m ih =>
    obtain ⟨first, rest⟩ := List.forall_mem_cons.mp above
    rw [update, if_neg (UInt32.lt_asymm first), if_neg (UInt32.ne_of_lt first).symm, ih rest,
      List.cons_append]

/-! ## Gathering elements -/

variable (key : β → UInt32) (fresh : α) (step : β → α → α)

/-- Take up elements one after the other, each at its index. -/
def gather (xs : List β) : ByIndex α :=
  xs.foldl (fun m x => update (key x) fresh (step x) m) []

/-- Taking up one more element is a change at its index. -/
theorem gather_concat (xs : List β) (x : β) :
    gather key fresh step (xs ++ [x]) =
      update (key x) fresh (step x) (gather key fresh step xs) := by
  rw [gather, List.foldl_append]
  rfl

/-- Gathering can go on. -/
theorem foldl_gather (xs ys : List β) :
    ys.foldl (fun m x => update (key x) fresh (step x) m) (gather key fresh step xs) =
      gather key fresh step (xs ++ ys) := by
  rw [gather, gather, List.foldl_append]

/-- `gather xs` is ascending. -/
theorem ascending_gather (xs : List β) : Ascending (gather key fresh step xs) := by
  induction xs using List.reverseRecOn with
  | nil => exact List.Pairwise.nil
  | append_singleton xs x ih =>
    rw [gather_concat]
    exact ascending_update ih

/-- **At each index stands what the elements of that index come to**, in their order. -/
theorem find?_gather (i : UInt32) (xs : List β) :
    find? i (gather key fresh step xs) =
      if xs.filter (fun x => key x = i) = [] then none
      else some ((xs.filter fun x => key x = i).foldl (fun a x => step x a) fresh) := by
  induction xs using List.reverseRecOn with
  | nil => rfl
  | append_singleton xs x ih =>
    rw [gather_concat, find?_update (ascending_gather key fresh step xs), List.filter_append]
    -- Elements of other indices leave what stands at this one alone.
    by_cases here : key x = i
    · subst here
      have one : [x].filter (fun y => decide (key y = key x)) = [x] := by simp
      rw [if_pos rfl, one, List.foldl_append,
        if_neg (List.append_ne_nil_of_right_ne_nil _ (List.cons_ne_nil x [])), ih]
      split
      · next none =>
        rw [none]
        rfl
      · rfl
    · have none : [x].filter (fun y => decide (key y = i)) = [] := by simp [here]
      rw [if_neg (Ne.symm here), ih, none, List.append_nil]

/-- **Elements of ascending indices are gathered as they come**, each on its own. -/
theorem gather_of_ascending {xs : List β} (ascending : xs.Pairwise fun x y => key x < key y) :
    gather key fresh step xs = xs.map fun x => (key x, step x fresh) := by
  induction xs using List.reverseRecOn with
  | nil => rfl
  | append_singleton xs x ih =>
    obtain ⟨front, -, last⟩ := List.pairwise_append.mp ascending
    have above : ∀ p ∈ xs.map fun x => (key x, step x fresh), p.1 < key x :=
      List.forall_mem_map.mpr fun y hy => last y hy x List.mem_cons_self
    rw [gather_concat, ih front, update_of_lt above, List.map_append, List.map_singleton]

end Colloquy.ByIndex
