import Colloquy.Json.Basic
import Colloquy.Proofs.NameMap

/-! # Canonical form

Members ordered by name, and what that leaves of them.  `Json.lookup_sortFields` says that ordering
members of distinct names keeps what each name stands for, and `Json.canonical_canonical` that a
value in canonical form is its own canonical form. -/

namespace Colloquy.Json

/-- Whether members are ordered by name, and no name occurs twice. -/
def Sorted (fields : List (String × Json)) : Prop := fields.Pairwise fun f g => f.1 < g.1

/-! ## One member among others -/

/-- A member is put among others as an entry is among those of a map. -/
theorem insertField_eq_place (name : String) (value : Json) (fields : List (String × Json)) :
    insertField name value fields = NameMap.place name value fields := by
  induction fields with
  | nil => rfl
  | cons f fields ih => rw [insertField, NameMap.place, ih]

/-- What a name stands for is the first entry that has it. -/
theorem lookup_eq_lookup (key : String) (fields : List (String × Json)) :
    lookup key fields = fields.lookup key := by
  induction fields with
  | nil => rfl
  | cons f fields ih =>
    rw [lookup, NameMap.lookup_cons, ih]
    simp only [eq_comm]

/-- What a name stands for once a member has been put among others. -/
theorem lookup_insertField (name : String) (value : Json) (fields : List (String × Json))
    (key : String) :
    lookup key (insertField name value fields) =
      if key = name then some value else lookup key fields := by
  rw [lookup_eq_lookup, lookup_eq_lookup, insertField_eq_place, NameMap.lookup_place]

/-- A member among others is the new one or was there before. -/
theorem mem_insertField {name : String} {value : Json} {fields : List (String × Json)}
    {f : String × Json} (h : f ∈ insertField name value fields) :
    f = (name, value) ∨ f ∈ fields := by
  rw [insertField_eq_place] at h
  exact NameMap.mem_place h

/-- **`insertField` keeps ordered members ordered.** -/
theorem Sorted.insertField {fields : List (String × Json)} (h : Sorted fields) (name : String)
    (value : Json) : Sorted (insertField name value fields) := by
  rw [insertField_eq_place]
  exact NameMap.ordered_place name value h

/-- A name after all others is put at the end. -/
theorem insertField_of_lt {name : String} {value : Json} {fields : List (String × Json)}
    (last : ∀ f ∈ fields, f.1 < name) :
    insertField name value fields = fields ++ [(name, value)] := by
  induction fields with
  | nil => rfl
  | cons f fields ih =>
    obtain ⟨first, rest⟩ := List.forall_mem_cons.mp last
    have other : name ≠ f.1 := fun same => String.lt_irrefl name (same ▸ first)
    rw [insertField, if_neg (String.lt_asymm first), if_neg other, ih rest, List.cons_append]

/-! ## All members -/

/-- Ordering one more member puts it among the others. -/
theorem sortFields_concat (fields : List (String × Json)) (f : String × Json) :
    sortFields (fields ++ [f]) = insertField f.1 f.2 (sortFields fields) := by
  rw [sortFields, List.foldl_append, ← sortFields]
  rfl

/-- Ordered members are ordered. -/
theorem sorted_sortFields (fields : List (String × Json)) : Sorted (sortFields fields) := by
  induction fields using List.reverseRecOn with
  | nil => exact .nil
  | append_singleton fields f ih =>
    rw [sortFields_concat]
    exact ih.insertField f.1 f.2

/-- Ordering members adds none. -/
theorem mem_sortFields {fields : List (String × Json)} {f : String × Json}
    (h : f ∈ sortFields fields) : f ∈ fields := by
  induction fields using List.reverseRecOn with
  | nil => exact h
  | append_singleton fields g ih =>
    rw [sortFields_concat] at h
    rcases mem_insertField h with rfl | earlier
    · exact List.mem_append_right _ (List.mem_singleton_self _)
    · exact List.mem_append_left _ (ih earlier)

/-- **`sortFields` leaves ordered members as they are.** -/
theorem Sorted.sortFields {fields : List (String × Json)} (h : Sorted fields) :
    sortFields fields = fields := by
  induction fields using List.reverseRecOn with
  | nil => rfl
  | append_singleton fields f ih =>
    obtain ⟨others, -, last⟩ := List.pairwise_append.mp h
    rw [sortFields_concat, ih others]
    exact insertField_of_lt fun g mem => last g mem f (List.mem_singleton_self f)

/-- A name that no member has stands for nothing. -/
theorem lookup_eq_none {fields : List (String × Json)} {key : String} :
    lookup key fields = none ↔ key ∉ fields.map Prod.fst := by
  induction fields with
  | nil => simp [lookup]
  | cons f fields ih =>
    obtain ⟨name, v⟩ := f
    rw [lookup, List.map_cons, List.mem_cons, not_or]
    by_cases here : name = key
    · simp [here]
    · rw [if_neg here, ih, and_iff_right (Ne.symm here)]

/-- What a name stands for is decided by the first member that has it. -/
theorem lookup_append (first others : List (String × Json)) (key : String) :
    lookup key (first ++ others) = (lookup key first).or (lookup key others) := by
  induction first with
  | nil => rfl
  | cons f first ih =>
    obtain ⟨name, v⟩ := f
    rw [List.cons_append, lookup, lookup, ih]
    split <;> rfl

/-- **`sortFields` of members of distinct names keeps what each name stands for.** -/
theorem lookup_sortFields {fields : List (String × Json)} (distinct : (fields.map Prod.fst).Nodup)
    (key : String) : lookup key (sortFields fields) = lookup key fields := by
  induction fields using List.reverseRecOn with
  | nil => rfl
  | append_singleton fields f ih =>
    obtain ⟨name, v⟩ := f
    rw [List.map_append, List.nodup_append_comm] at distinct
    obtain ⟨new, distinct⟩ := List.nodup_cons.mp distinct
    rw [sortFields_concat, lookup_insertField, lookup_append, ih distinct, lookup]
    by_cases here : key = name
    · subst here
      rw [if_pos rfl, lookup_eq_none.mpr new, Option.none_or, if_pos rfl]
    · rw [if_neg here, if_neg (Ne.symm here), lookup, Option.or_none]

/-- Ordered members have distinct names. -/
theorem Sorted.nodup {fields : List (String × Json)} (h : Sorted fields) :
    (fields.map Prod.fst).Nodup := by
  rw [List.Nodup, List.pairwise_map]
  refine h.imp ?_
  intro f g before same
  exact String.lt_irrefl f.1 (same ▸ before)

/-! ## Values within values -/

/-- All items in canonical form, one by one. -/
theorem canonicalItems_eq_map (items : List Json) : canonicalItems items = items.map canonical := by
  induction items with
  | nil => rfl
  | cons v items ih => rw [canonicalItems, ih, List.map_cons]

/-- All members with values in canonical form, one by one. -/
theorem canonicalFields_eq_map (fields : List (String × Json)) :
    canonicalFields fields = fields.map fun f => (f.1, f.2.canonical) := by
  induction fields with
  | nil => rfl
  | cons f fields ih => rw [canonicalFields, ih, List.map_cons]

/-- The names of members stay the same. -/
theorem map_fst_canonicalFields (fields : List (String × Json)) :
    (canonicalFields fields).map Prod.fst = fields.map Prod.fst := by
  rw [canonicalFields_eq_map, List.map_map]
  rfl

/-- A name stands for the canonical form of what it stood for. -/
theorem lookup_canonicalFields (fields : List (String × Json)) (key : String) :
    lookup key (canonicalFields fields) = (lookup key fields).map canonical := by
  induction fields with
  | nil => rfl
  | cons f fields ih =>
    obtain ⟨name, v⟩ := f
    rw [canonicalFields, lookup, lookup, ih]
    split <;> rfl

mutual

/-- **`v.canonical.canonical = v.canonical`.** -/
theorem canonical_canonical : ∀ v : Json, v.canonical.canonical = v.canonical
  | .null => rfl
  | .bool _ => rfl
  | .num _ => rfl
  | .str _ => rfl
  | .arr items => by
    have each : (canonicalItems items).map canonical = canonicalItems items :=
      (List.map_congr_left (canonical_of_mem_canonicalItems items)).trans (List.map_id' _)
    rw [canonical, canonical, canonicalItems_eq_map, each]
  | .obj fields => by
    have each : canonicalFields (sortFields (canonicalFields fields)) =
        sortFields (canonicalFields fields) := by
      rw [canonicalFields_eq_map]
      refine (List.map_congr_left fun f mem => ?_).trans (List.map_id' _)
      rw [canonical_of_mem_canonicalFields fields f (mem_sortFields mem)]
    rw [canonical, canonical, each, (sorted_sortFields _).sortFields]

/-- Items in canonical form are their own canonical forms. -/
theorem canonical_of_mem_canonicalItems : ∀ items : List Json, ∀ v ∈ canonicalItems items,
    v.canonical = v
  | [], _, mem => by cases mem
  | v :: items, w, mem => by
    rw [canonicalItems] at mem
    rcases List.mem_cons.mp mem with rfl | later
    · exact canonical_canonical v
    · exact canonical_of_mem_canonicalItems items w later

/-- Members with values in canonical form keep them. -/
theorem canonical_of_mem_canonicalFields : ∀ fields : List (String × Json),
    ∀ f ∈ canonicalFields fields, f.2.canonical = f.2
  | [], _, mem => by cases mem
  | (name, v) :: fields, g, mem => by
    rw [canonicalFields] at mem
    rcases List.mem_cons.mp mem with rfl | later
    · exact canonical_canonical v
    · exact canonical_of_mem_canonicalFields fields g later

end

end Colloquy.Json
