/-! # Maps from names

A finite map from names is kept as its entries in the order of the names, each name once.  Two maps
are therefore equal if they answer alike.  Whoever goes through a map may take the entries in another
order, `NameMap.listed`. -/

namespace Colloquy

/-- A finite map from names. -/
structure NameMap (α : Type) where
  /-- The entries, in the order of their names. -/
  entries : List (String × α)
  /-- Every name precedes the ones after it. -/
  ordered : entries.Pairwise fun a b => a.1 < b.1
deriving DecidableEq, Repr

namespace NameMap

variable {α β : Type}

/-- The map without entries. -/
def empty : NameMap α := ⟨[], .nil⟩

/-- Put an entry among ordered ones, in place of one of the same name. -/
def place (name : String) (value : α) : List (String × α) → List (String × α)
  | [] => [(name, value)]
  | (key, other) :: rest =>
    if name < key then (name, value) :: (key, other) :: rest
    else if name = key then (name, value) :: rest
    else (key, other) :: place name value rest

/-- What is placed is the new entry or one of the old ones. -/
theorem mem_place {name : String} {value : α} {e : String × α} {entries : List (String × α)}
    (h : e ∈ place name value entries) : e = (name, value) ∨ e ∈ entries := by
  induction entries with
  | nil => simpa [place] using h
  | cons head rest ih =>
    obtain ⟨key, other⟩ := head
    rw [place] at h
    split at h <;> (try split at h) <;> simp only [List.mem_cons] at h ⊢ <;> grind

/-- An entry is placed where the order wants it. -/
theorem ordered_place (name : String) (value : α) {entries : List (String × α)}
    (h : entries.Pairwise fun a b => a.1 < b.1) :
    (place name value entries).Pairwise fun a b => a.1 < b.1 := by
  induction entries with
  | nil => simp [place]
  | cons head rest ih =>
    obtain ⟨key, other⟩ := head
    rw [List.pairwise_cons] at h
    rw [place]
    split
    · rename_i lt
      refine List.pairwise_cons.2 ⟨fun e he => ?_, List.pairwise_cons.2 h⟩
      rcases List.mem_cons.1 he with rfl | he
      · exact lt
      · exact String.lt_trans lt (h.1 e he)
    · split
      · rename_i eq
        exact List.pairwise_cons.2 ⟨fun e he => eq ▸ h.1 e he, h.2⟩
      · rename_i notLt ne
        refine List.pairwise_cons.2 ⟨fun e he => ?_, ih h.2⟩
        rcases mem_place he with rfl | he
        · exact String.not_le.1 fun le => ne (String.le_antisymm le (String.not_lt.1 notLt))
        · exact h.1 e he

/-- The map with an entry put in, in place of one of the same name. -/
def insert (m : NameMap α) (name : String) (value : α) : NameMap α :=
  ⟨place name value m.entries, ordered_place name value m.ordered⟩

/-- The map of some entries; the last one of a name counts. -/
def ofList (entries : List (String × α)) : NameMap α :=
  entries.foldl (fun m e => m.insert e.1 e.2) empty

/-- What a name is mapped to. -/
def get? (m : NameMap α) (name : String) : Option α := m.entries.lookup name

/-- The names, in order. -/
def names (m : NameMap α) : List String := m.entries.map (·.1)

/-- Change what the names are mapped to. -/
def map (f : α → β) (m : NameMap α) : NameMap β :=
  ⟨m.entries.map fun e => (e.1, f e.2), List.pairwise_map.2 m.ordered⟩

end NameMap

/-- A choice of the order in which names are gone through. -/
structure NameOrder where
  /-- The names in that order. -/
  arrange : List String → List String
  /-- They are the same names. -/
  perm : ∀ names, (arrange names).Perm names

/-- The order in which the names are. -/
def NameOrder.sorted : NameOrder := ⟨id, fun names => .refl names⟩

/-- The entries of `m` in the order `o`. -/
def NameMap.listed {α : Type} (o : NameOrder) (m : NameMap α) : List (String × α) :=
  (o.arrange m.names).filterMap fun name => (m.get? name).map fun value => (name, value)

end Colloquy
