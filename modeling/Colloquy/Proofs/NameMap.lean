import Colloquy.NameMap
import Mathlib.Data.List.Forall2
import Mathlib.Data.List.Induction
import Mathlib.Data.List.Nodup

/-! # What maps from names answer

A map from names is known by its answers (`NameMap.ext`).  A map of some entries answers with the
last one of a name (`NameMap.get?_ofList`), and with all of them if their names are distinct
(`NameMap.get?_ofList_eq_some`).  Entries that are related one by one make for maps that are
(`NameMap.forall₂_ofList`). -/

namespace Colloquy.NameMap

variable {α : Type} {m n : NameMap α} {name key : String} {value : α}

/-! ## Entries -/

/-- No name occurs twice. -/
theorem nodup_names (m : NameMap α) : m.names.Nodup :=
  List.pairwise_map.mpr (m.ordered.imp fun before => String.ne_of_lt before)

/-- The names ascend. -/
theorem ascending_names (m : NameMap α) : m.names.Pairwise (· < ·) :=
  List.pairwise_map.mpr m.ordered

/-- Where names are distinct, exactly the entries that stand there are found. -/
theorem lookup_eq_some {entries : List (String × α)} (distinct : (entries.map Prod.fst).Nodup) :
    entries.lookup name = some value ↔ (name, value) ∈ entries := by
  rw [List.lookup_eq_some_iff]
  constructor
  · rintro ⟨before, after, rfl, -⟩
    simp
  · intro mem
    obtain ⟨before, after, rfl⟩ := List.append_of_mem mem
    refine ⟨before, after, rfl, fun e earlier => ?_⟩
    rw [List.map_append, List.nodup_append] at distinct
    have other : e.1 ≠ name :=
      distinct.2.2 e.1 (List.mem_map_of_mem earlier) name (by simp)
    exact bne_iff_ne.mpr (Ne.symm other)

/-- `get?` answers with the entries of the map. -/
theorem get?_eq_some : m.get? name = some value ↔ (name, value) ∈ m.entries :=
  lookup_eq_some m.nodup_names

/-- The names are those for which `get?` answers. -/
theorem mem_names : name ∈ m.names ↔ ∃ value, m.get? name = some value := by
  simp [names, get?_eq_some]

/-- **Maps are equal if `get?` answers alike.** -/
theorem ext (h : ∀ name, m.get? name = n.get? name) : m = n := by
  have distinct : ∀ m : NameMap α, m.entries.Nodup := fun m => List.Nodup.of_map _ m.nodup_names
  have same : m.entries.Perm n.entries := by
    refine (List.perm_ext_iff_of_nodup (distinct m) (distinct n)).mpr fun e => ?_
    rw [← get?_eq_some, ← get?_eq_some, h]
  obtain ⟨entries, ordered⟩ := m
  obtain ⟨others, ordered'⟩ := n
  obtain rfl : entries = others :=
    same.eq_of_pairwise (fun _ _ _ _ before after => absurd after (String.lt_asymm before))
      ordered ordered'
  rfl

/-! ## Other orders -/

/-- **`m.listed o` are the entries of `m`**, in some order. -/
theorem perm_listed (o : NameOrder) (m : NameMap α) : (m.listed o).Perm m.entries := by
  have found : m.names.filterMap (fun name => (m.get? name).map fun value => (name, value)) =
      m.entries := by
    rw [names, List.filterMap_map]
    refine (List.filterMap_congr fun e mem => ?_).trans List.filterMap_some
    rw [Function.comp_apply, get?_eq_some.mpr mem]
    rfl
  rw [listed]
  exact found ▸ (o.perm m.names).filterMap _

/-- No name occurs twice in `m.listed o`. -/
theorem nodup_listed (o : NameOrder) (m : NameMap α) : ((m.listed o).map Prod.fst).Nodup :=
  ((m.perm_listed o).map Prod.fst).nodup_iff.mpr m.nodup_names

/-- `(m.map f).listed o` has the values of `m.listed o` changed by `f`. -/
theorem listed_map {β : Type} (o : NameOrder) (f : α → β) (m : NameMap α) :
    (m.map f).listed o = (m.listed o).map fun e => (e.1, f e.2) := by
  have names : (m.map f).names = m.names := by simp [NameMap.names, map]
  have value : ∀ name, (m.map f).get? name = (m.get? name).map f := by
    intro name
    refine Option.ext fun b => ?_
    rw [get?_eq_some, Option.map_eq_some_iff]
    simp [map, get?_eq_some]
  rw [listed, listed, names, List.map_filterMap]
  refine List.filterMap_congr fun name _ => ?_
  rw [value]
  cases m.get? name <;> rfl

/-! ## Insertion -/

/-- An entry in front is found under its name; other names are found behind it. -/
theorem lookup_cons (e : String × α) (entries : List (String × α)) :
    (e :: entries).lookup key = if key = e.1 then some e.2 else entries.lookup key := by
  rw [List.lookup_cons]
  by_cases here : key = e.1
  · rw [if_pos here, here, BEq.rfl]
  · rw [if_neg here, beq_false_of_ne here]

/-- An entry that is placed is found under its name; other names are found as before. -/
theorem lookup_place (entries : List (String × α)) :
    (place name value entries).lookup key =
      if key = name then some value else entries.lookup key := by
  induction entries with
  | nil => exact lookup_cons (name, value) []
  | cons e rest ih =>
    obtain ⟨other, v⟩ := e
    rw [place]
    split
    · exact lookup_cons (name, value) _
    · split
      · next same =>
        subst same
        rw [lookup_cons, lookup_cons]
        by_cases here : key = name
        · rw [if_pos here, if_pos here]
        · rw [if_neg here, if_neg here, if_neg here]
      · next differs =>
        rw [lookup_cons, lookup_cons, ih]
        by_cases here : key = name
        · rw [if_pos here, if_pos here, if_neg (here ▸ differs)]
        · rw [if_neg here, if_neg here]

/-- A map with an entry put in answers with it, and as before otherwise. -/
@[simp] theorem get?_insert :
    (m.insert name value).get? key = if key = name then some value else m.get? key :=
  lookup_place m.entries

/-- **`ofList entries` answers with the last entry of a name.** -/
theorem get?_ofList (entries : List (String × α)) :
    (ofList entries).get? name = entries.reverse.lookup name := by
  induction entries using List.reverseRecOn with
  | nil => rfl
  | append_singleton entries e ih =>
    have last : ofList (entries ++ [e]) = (ofList entries).insert e.1 e.2 := by
      rw [ofList, List.foldl_append]
      rfl
    rw [last, get?_insert, ih, List.reverse_append, List.reverse_singleton, List.singleton_append,
      lookup_cons]

/-- `ofList entries` answers with exactly the entries, if their names are distinct. -/
theorem get?_ofList_eq_some {entries : List (String × α)}
    (distinct : (entries.map Prod.fst).Nodup) :
    (ofList entries).get? name = some value ↔ (name, value) ∈ entries := by
  have reversed : (entries.reverse.map Prod.fst).Nodup := by
    rw [List.map_reverse]
    exact List.pairwise_reverse.mpr (distinct.imp Ne.symm)
  rw [get?_ofList, lookup_eq_some reversed, List.mem_reverse]

/-- **`ofList` of the entries of a map is the map**, in whatever order they are. -/
theorem ofList_of_perm {entries : List (String × α)} (h : entries.Perm m.entries) :
    ofList entries = m := by
  have distinct : (entries.map Prod.fst).Nodup := (h.map Prod.fst).nodup_iff.mpr m.nodup_names
  refine ext fun name => Option.ext fun value => ?_
  rw [get?_ofList_eq_some distinct, get?_eq_some, h.mem_iff]

/-! ## Related values -/

/-- Entries of one name whose values are related. -/
structure Paired {β : Type} (R : String → α → β → Prop) (e : String × α) (f : String × β) :
    Prop where
  /-- The names are the same. -/
  name : e.1 = f.1
  /-- The values are related. -/
  value : R e.1 e.2 f.2

/-- Maps with the same names, whose values are related. -/
def Related {β : Type} (R : α → β → Prop) (m : NameMap α) (n : NameMap β) : Prop :=
  List.Forall₂ (Paired fun _ => R) m.entries n.entries

/-- A map is related to itself if its values are. -/
theorem Related.refl {R : α → α → Prop} (values : ∀ a, R a a) (m : NameMap α) : m.Related R m :=
  List.forall₂_same.mpr fun _ _ => ⟨rfl, values _⟩

variable {β : Type} {R : String → α → β → Prop} {other : β}

/-- An entry that is placed among related ones has its counterpart. -/
theorem forall₂_place {entries : List (String × α)} {others : List (String × β)}
    (h : List.Forall₂ (Paired R) entries others) (related : R name value other) :
    List.Forall₂ (Paired R) (place name value entries) (place name other others) := by
  induction h with
  | nil => exact .cons ⟨rfl, related⟩ .nil
  | @cons e f _ _ first rest ih =>
    obtain ⟨key, v⟩ := e
    obtain ⟨key', w⟩ := f
    obtain rfl : key = key' := first.name
    rw [place, place]
    split
    · exact .cons ⟨rfl, related⟩ (.cons first rest)
    · split
      · exact .cons ⟨rfl, related⟩ rest
      · exact .cons first ih

/-- **Entries that are related one by one make for maps whose entries are.** -/
theorem forall₂_ofList {entries : List (String × α)} {others : List (String × β)}
    (h : List.Forall₂ (Paired R) entries others) :
    List.Forall₂ (Paired R) (ofList entries).entries (ofList others).entries := by
  -- Entries are put in from the front, so the maps that are there already have to vary.
  have onward : ∀ (m : NameMap α) (n : NameMap β), List.Forall₂ (Paired R) m.entries n.entries →
      List.Forall₂ (Paired R) (entries.foldl (fun m e => m.insert e.1 e.2) m).entries
        (others.foldl (fun n f => n.insert f.1 f.2) n).entries := by
    induction h with
    | nil => exact fun m n known => known
    | @cons e f _ _ first _ ih =>
      obtain ⟨key, v⟩ := e
      obtain ⟨key', w⟩ := f
      obtain rfl : key = key' := first.name
      exact fun m n known => ih _ _ (forall₂_place known first.value)
  exact onward empty empty .nil

/-- Maps are made the same if their values are. -/
theorem Related.map_eq {γ : Type} {f : α → γ} {g : β → γ} {n : NameMap β}
    (h : m.Related (fun a b => f a = g b) n) : m.map f = n.map g := by
  rw [map, map, mk.injEq, ← List.forall₂_eq_eq_eq, List.forall₂_map_left_iff,
    List.forall₂_map_right_iff]
  exact h.imp fun e e' pair => Prod.ext pair.name pair.value

end Colloquy.NameMap
