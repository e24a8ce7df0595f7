import Colloquy.Proofs.Json.Record
import Colloquy.Proofs.NameMap

/-! # What decoders make of related values

Decoders that make something related of related values, or fail alike, put records together that are
related as well.  `Record.Respects` says so of the fields of a record one by one, and
`Record.Respects.ofFields` of the record as a whole.  The relation between members may depend on
their name. -/

namespace Colloquy.Json

variable {α β : Type}

/-! ## Canonical form -/

/-- Members are put in order as the entries of a map are. -/
theorem sortFields_eq_entries (fields : List (String × Json)) :
    sortFields fields = (NameMap.ofList fields).entries := by
  induction fields using List.reverseRecOn with
  | nil => rfl
  | append_singleton fields f ih =>
    rw [sortFields_concat, ih, insertField_eq_place, NameMap.ofList, NameMap.ofList, List.foldl_append]
    rfl

/-- **Members stay related in canonical form**, if their values do. -/
theorem forall₂_canonical {V : String → Json → Json → Prop} {fields others : List (String × Json)}
    (keeps : ∀ name v w, V name v w → V name v.canonical w.canonical)
    (h : List.Forall₂ (NameMap.Paired V) fields others) :
    List.Forall₂ (NameMap.Paired V) (sortFields (canonicalFields fields))
      (sortFields (canonicalFields others)) := by
  rw [sortFields_eq_entries, sortFields_eq_entries, canonicalFields_eq_map, canonicalFields_eq_map]
  refine NameMap.forall₂_ofList ?_
  rw [List.forall₂_map_left_iff, List.forall₂_map_right_iff]
  exact h.imp fun e f pair => ⟨pair.name, keeps _ _ _ pair.value⟩

/-! ## Decoders -/

namespace Decoder

variable {V : String → Json → Json → Prop} {R : α → α → Prop} {d : Decoder α} {v w : Json}

/-- Whether a decoder makes related things of two values, or finds the same problem in both. -/
abbrev Relates (d : Decoder α) (R : α → α → Prop) (v w : Json) : Prop :=
  Except.Related Eq R (d.ofJson v) (d.ofJson w)

/-- What a decoder makes of a value is related to itself. -/
theorem relates_self (results : ∀ a, R a a) (v : Json) : d.Relates R v v :=
  .refl (fun _ => rfl) results _

end Decoder

/-! ## Records -/

namespace Record

variable {V : String → Json → Json → Prop} {R : α → α → Prop}

/-- Whether the fields of a record are read as related values from related members, and related
fields make a related record. -/
def Respects (V : String → Json → Json → Prop) :
    {α : Type} → Record α → (α → α → Prop) → Prop
  | _, .make value, R => R value value
  | _, .field (β := β) before name d absence, R => ∃ S : β → β → Prop,
    Respects V before (fun f g => ∀ b c, S b c → R (f b) (g c)) ∧
      (∀ v w, V name v w → d.Relates S v w) ∧ ∀ b, absence.inObject = some b → S b b

/-- What is known of the fields can be related such that every member keeps it so, and what is built
in the end is related. -/
theorem Respects.slots {r : Record α} (h : r.Respects V R) :
    ∃ T : r.Slots → r.Slots → Prop, T r.empty r.empty ∧
      (∀ x y, T x y → ∀ key v w, V key v w →
        Except.Related Eq T (r.takeMembers x [(key, v)]) (r.takeMembers y [(key, w)])) ∧
      ∀ x y, T x y → Except.Related Eq R (r.build x) (r.build y) := by
  induction r with
  | make value => exact ⟨fun _ _ => True, trivial, fun _ _ _ _ _ _ _ => .ok trivial,
      fun _ _ _ => .ok h⟩
  | field before name d absence ih =>
    obtain ⟨S, others, reads, base⟩ := h
    obtain ⟨T, start, step, result⟩ := ih others
    -- Only the description says how values of the last field are related, so `S` joins `T` here.
    refine ⟨fun x y => T x.1 y.1 ∧ Option.Rel S x.2 y.2, ⟨start, .none⟩, ?_, ?_⟩
    · rintro ⟨x, here⟩ ⟨y, there⟩ ⟨known, last⟩ key v w member
      by_cases named : key = name
      · subst named
        simp only [takeMembers, slot?, if_true]
        -- A field that is known already is a problem on both sides.
        cases last with
        | some => exact .error rfl
        | none =>
          have read := (reads v w member).map (f := fun b => (x, some b))
            (g := fun c => (y, some c)) (S := fun x y => T x.1 y.1 ∧ Option.Rel S x.2 y.2)
            fun b c related => ⟨known, .some related⟩
          exact read.bind fun _ _ related => .ok related
      · rw [takeMembers_of_ne named, takeMembers_of_ne named]
        exact (step x y known key v w member).map fun _ _ related => ⟨related, last⟩
    · rintro ⟨x, here⟩ ⟨y, there⟩ ⟨known, last⟩
      refine (result x y known).bind fun f g related => ?_
      cases last with
      | some last => exact .ok (related _ _ last)
      | none =>
        simp only
        cases implied : absence.inObject with
        | none => exact .error rfl
        | some b => exact .ok (related b b (base b implied))

/-- **Records read from related members are related.** -/
theorem Respects.ofFields {r : Record α} (h : r.Respects V R)
    {fields others : List (String × Json)}
    (members : List.Forall₂ (NameMap.Paired V) fields others) :
    Except.Related Eq R (r.ofFields fields) (r.ofFields others) := by
  obtain ⟨T, start, step, result⟩ := h.slots
  have taken : ∀ x y, T x y →
      Except.Related Eq T (r.takeMembers x fields) (r.takeMembers y others) := by
    induction members with
    | nil => exact fun x y known => .ok known
    | @cons e f _ _ first _ ih =>
      obtain ⟨key, v⟩ := e
      obtain ⟨key', w⟩ := f
      obtain rfl : key = key' := first.name
      intro x y known
      rw [takeMembers_cons, takeMembers_cons r y]
      exact (step x y known key v w first.value).bind ih
  exact (taken _ _ start).bind result

/-- Whether related records are made of two lists of items, and the same items are left over. -/
def TakesAlike (r : Record α) (R : α → α → Prop) (title : String) (total : Nat)
    (items others : List Json) : Prop :=
  Except.Related Eq (fun x y => R x.1 y.1 ∧ x.2 = y.2) (takeItems title total r items)
    (takeItems title total r others)

/-- **Where items are taken alike for some fields**, they are for one more. -/
theorem TakesAlike.field {before : Record (β → α)} {name title : String} {total : Nat}
    {d : Decoder β} {absence : Absence β} {items others : List Json}
    (h : before.TakesAlike (fun f g => ∀ b, R (f b) (g b)) title total items others) :
    (before.field name d absence).TakesAlike R title total items others := by
  rw [TakesAlike, takeItems, takeItems]
  refine h.bind ?_
  rintro ⟨f, n, left⟩ ⟨g, _, _⟩ ⟨related, ⟨⟩⟩
  cases left with
  | cons v rest =>
    simp only
    cases d.ofJson v with
    | error p => exact .error rfl
    | ok b => exact .ok ⟨related b, rfl⟩
  | nil =>
    simp only
    cases absence.inList with
    | none => exact .error rfl
    | some b => exact .ok ⟨related b, rfl⟩

/-! ### Kinds of fields -/

/-- A field that may be missing. -/
theorem Respects.orElse {r : Record (β → α)} {name : String} {d : Decoder β} {value : β}
    (S : β → β → Prop) (h : r.Respects V fun f g => ∀ b c, S b c → R (f b) (g c))
    (reads : ∀ v w, V name v w → d.Relates S v w) (base : S value value) :
    (r.orElse name d value).Respects V R := by
  refine ⟨S, h, reads, fun b same => ?_⟩
  obtain rfl := Option.some.inj same
  exact base

/-- A field that may be missing, where members of its name are the same. -/
theorem Respects.orElse_same {r : Record (β → α)} {name : String} {d : Decoder β} {value : β}
    (h : r.Respects V fun f g => ∀ b, R (f b) (g b)) (same : ∀ v w, V name v w → v = w) :
    (r.orElse name d value).Respects V R := by
  refine .orElse Eq ?_ (fun v w member => ?_) rfl
  · have fields : (fun f g : β → α => ∀ b, R (f b) (g b)) =
        fun f g => ∀ b c, b = c → R (f b) (g c) := by
      funext f g
      simp
    exact fields ▸ h
  · rw [same v w member]
    exact Decoder.relates_self (fun _ => rfl) w

end Record

end Colloquy.Json
