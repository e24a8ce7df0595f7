import Colloquy.Json.Decoder
import Colloquy.Proofs.Except
import Colloquy.Proofs.Json.Canonical

/-! # What decoders yield

What is known of something that a decoder made of a value or a text.  `Record.yields` is the main
statement: a record is put together from what the decoders of its fields yield and from what stands
for fields that are not there. -/

namespace Colloquy.Json

variable {α β : Type}

namespace Decoder

/-- Whether a decoder makes something of some value or some text. -/
def Yields (d : Decoder α) (a : α) : Prop :=
  (∃ v, d.ofJson v = .ok a) ∨ ∃ depth s rest, d.read depth s = .ok (a, rest)

/-- What is read from a whole text is yielded. -/
theorem yields_of_ofText {d : Decoder α} {text : String} {a : α} (h : d.ofText text = .ok a) :
    d.Yields a := by
  rw [ofText, parse] at h
  split at h
  · next b whole =>
    obtain rfl := Except.ok.inj h
    obtain ⟨⟨b, rest⟩, read, ended⟩ := Except.bind_eq_ok.mp whole
    rw [finish] at ended
    split at ended
    · obtain rfl := Except.ok.inj ended
      exact .inr ⟨depthLimit, text.toList, rest, read⟩
    · cases ended
  · cases h

/-- What a decoder with a function applied yields is the function of what it yields. -/
theorem Yields.of_map {f : α → β} {d : Decoder α} {b : β} (h : (d.map f).Yields b) :
    ∃ a, d.Yields a ∧ f a = b := by
  rcases h with ⟨v, read⟩ | ⟨depth, s, rest, read⟩
  · obtain ⟨a, read, same⟩ := Except.map_eq_ok.mp read
    exact ⟨a, .inl ⟨v, read⟩, same⟩
  · obtain ⟨⟨a, rest'⟩, read, same⟩ := Except.map_eq_ok.mp read
    exact ⟨a, .inr ⟨depth, s, rest', read⟩, (Prod.mk.inj same).1⟩

/-- **Members that are read are in canonical form.** -/
theorem Yields.canonical {fields : List (String × Json)} (h : object.Yields fields) :
    (Json.obj fields).canonical = .obj fields := by
  have ordered : ∀ members, fields = sortFields (canonicalFields members) →
      (Json.obj fields).canonical = .obj fields := by
    rintro members rfl
    exact canonical_canonical (.obj members)
  rcases h with ⟨v, read⟩ | ⟨depth, s, rest, read⟩
  · cases v with
    | obj members => exact ordered members (Except.ok.inj read).symm
    | _ => cases read
  · simp only [object] at read
    split at read
    · cases read
    · split at read
      · split at read
        · cases read
        · obtain ⟨⟨members, _⟩, -, same⟩ := Except.map_eq_ok.mp read
          exact ordered members (Prod.mk.inj same).1.symm
      · cases read

/-- Items that are read one after the other are read each. -/
theorem yields_of_readItems {d : Decoder α} {depth fuel : Nat} {first : Bool} {s rest : List Char}
    {as : List α} (h : readItems (d.read depth) fuel first s = .ok (as, rest)) :
    ∀ a ∈ as, d.Yields a := by
  induction fuel generalizing first s as rest with
  | zero => cases h
  | succ fuel ih =>
    rw [readItems] at h
    obtain ⟨⟨next, ended⟩, -, h⟩ := Except.bind_eq_ok.mp h
    cases next with
    | none =>
      obtain ⟨rfl, -⟩ := Prod.mk.inj (Except.ok.inj h)
      exact nofun
    | some s =>
      obtain ⟨⟨a, s'⟩, item, h⟩ := Except.bind_eq_ok.mp h
      obtain ⟨⟨others, _⟩, items, h⟩ := Except.bind_eq_ok.mp h
      obtain ⟨rfl, -⟩ := Prod.mk.inj (Except.ok.inj h)
      exact List.forall_mem_cons.mpr ⟨.inr ⟨depth, s, s', item⟩, ih items⟩

/-- **The items of an array that is read are read themselves.** -/
theorem Yields.of_list {d : Decoder α} {as : List α} (h : (list d).Yields as) :
    ∀ a ∈ as, d.Yields a := by
  rcases h with ⟨v, read⟩ | ⟨depth, s, rest, read⟩
  · cases v with
    | arr items =>
      intro a mem
      obtain ⟨v, -, read⟩ := Except.exists_of_mem_of_mapM read mem
      exact .inl ⟨v, read⟩
    | _ => cases read
  · simp only [list] at read
    split at read
    · cases read
    · split at read
      · split at read
        · cases read
        · rw [readList] at read
          split at read
          · next items =>
            obtain ⟨_, -, same⟩ := Except.map_eq_ok.mp read
            obtain ⟨rfl, -⟩ := Prod.mk.inj same
            exact yields_of_readItems items
          · cases read
      · cases read

end Decoder

namespace Record

/-- Whether a record is put together from what the decoders of its fields yield. -/
def Yields : {α : Type} → Record α → α → Prop
  | _, .make value, a => a = value
  | _, .field before _ d absence, a =>
    ∃ f b, a = f b ∧ before.Yields f ∧ (d.Yields b ∨ absence.inObject = some b)

/-- Whether the fields that are known are what their decoders yield. -/
def Filled : {α : Type} → (r : Record α) → r.Slots → Prop
  | _, .make _, _ => True
  | _, .field before _ d _, slots => before.Filled slots.1 ∧ ∀ b, slots.2 = some b → d.Yields b

/-- At first no field is known. -/
theorem filled_empty (r : Record α) : r.Filled r.empty := by
  induction r with
  | make => exact trivial
  | field before name d absence ih => exact ⟨ih, nofun⟩

/-- **One more member keeps what is known of the fields.** -/
theorem Filled.slot? {r : Record α} {slots slots' : r.Slots} {key : String}
    {d : Decoder r.Slots} (h : r.Filled slots) (found : r.slot? key slots = some (.ok d))
    (filled : d.Yields slots') : r.Filled slots' := by
  induction r with
  | make => cases found
  | field before name d' absence ih =>
    obtain ⟨others, last⟩ := h
    rw [Record.slot?] at found
    split at found
    · split at found
      · cases found
      · obtain rfl := Except.ok.inj (Option.some.inj found)
        obtain ⟨b, yields, rfl⟩ := filled.of_map
        refine ⟨others, fun b' same => ?_⟩
        obtain rfl := Option.some.inj same
        exact yields
    · obtain ⟨next, there, same⟩ := Option.map_eq_some_iff.mp found
      obtain ⟨d'', rfl, rfl⟩ := Except.map_eq_ok.mp same
      obtain ⟨known', yields, rfl⟩ := filled.of_map
      exact ⟨ih others there yields, last⟩

/-- Members of a value keep what is known of the fields. -/
theorem Filled.takeMembers {r : Record α} {slots slots' : r.Slots}
    {fields : List (String × Json)} (h : r.Filled slots)
    (taken : r.takeMembers slots fields = .ok slots') : r.Filled slots' := by
  induction fields generalizing slots with
  | nil =>
    obtain rfl := Except.ok.inj taken
    exact h
  | cons f fields ih =>
    obtain ⟨key, v⟩ := f
    rw [Record.takeMembers] at taken
    split at taken
    · exact ih h taken
    · cases taken
    · next d found =>
      obtain ⟨next, read, later⟩ := Except.bind_eq_ok.mp taken
      exact ih (h.slot? found (.inl ⟨v, read⟩)) later

/-- Members in a text keep what is known of the fields. -/
theorem Filled.readMembers {r : Record α} {depth fuel : Nat} {first : Bool}
    {slots slots' : r.Slots} {s rest : List Char} (h : r.Filled slots)
    (read : r.readMembers depth fuel first slots s = .ok (slots', rest)) : r.Filled slots' := by
  induction fuel generalizing first slots s with
  | zero => cases read
  | succ fuel ih =>
    rw [Record.readMembers] at read
    obtain ⟨⟨key, s⟩, -, read⟩ := Except.bind_eq_ok.mp read
    cases key with
    | none =>
      obtain ⟨rfl, -⟩ := Prod.mk.inj (Except.ok.inj read)
      exact h
    | some key =>
      simp only at read
      split at read
      · obtain ⟨_, -, read⟩ := Except.bind_eq_ok.mp read
        obtain ⟨_, -, read⟩ := Except.bind_eq_ok.mp read
        exact ih h read
      · cases read
      · next d found =>
        obtain ⟨s, -, read⟩ := Except.bind_eq_ok.mp read
        obtain ⟨⟨next, s'⟩, member, read⟩ := Except.bind_eq_ok.mp read
        exact ih (h.slot? found (.inr ⟨depth, s, s', member⟩)) read

/-- **A record of known fields** is put together from what is known of them. -/
theorem Filled.build {r : Record α} {slots : r.Slots} {a : α} (h : r.Filled slots)
    (built : r.build slots = .ok a) : r.Yields a := by
  induction r with
  | make value => exact (Except.ok.inj built).symm
  | field before name d absence ih =>
    obtain ⟨others, last⟩ := h
    rw [Record.build] at built
    obtain ⟨f, earlier, built⟩ := Except.bind_eq_ok.mp built
    have front := ih others earlier
    split at built
    · next b same =>
      exact ⟨f, b, (Except.ok.inj built).symm, front, .inl (last b same)⟩
    · split at built
      · next b value => exact ⟨f, b, (Except.ok.inj built).symm, front, .inr value⟩
      · cases built

/-- What stands for an item that is missing from an array stands for a missing member as well. -/
theorem inObject_of_inList {absence : Absence α} {a : α} (h : absence.inList = some a) :
    absence.inObject = some a := by
  cases absence with
  | required => cases h
  | implied => cases h
  | default => exact h

/-- Fields taken from items are what their decoders yield. -/
theorem yields_of_takeItems {r : Record α} {title : String} {total n : Nat}
    {items rest : List Json} {a : α} (h : takeItems title total r items = .ok (a, n, rest)) :
    r.Yields a := by
  induction r generalizing n rest with
  | make value =>
    obtain ⟨rfl, -⟩ := Prod.mk.inj (Except.ok.inj h)
    rfl
  | field before name d absence ih =>
    rw [takeItems] at h
    obtain ⟨⟨f, m, items⟩, earlier, h⟩ := Except.bind_eq_ok.mp h
    have front := ih earlier
    simp only at h
    split at h
    · next v _ =>
      obtain ⟨b, read, h⟩ := Except.bind_eq_ok.mp h
      obtain ⟨rfl, -⟩ := Prod.mk.inj (Except.ok.inj h)
      exact ⟨f, b, rfl, front, .inl (.inl ⟨v, read⟩)⟩
    · split at h
      · next b value =>
        obtain ⟨rfl, -⟩ := Prod.mk.inj (Except.ok.inj h)
        exact ⟨f, b, rfl, front, .inr (inObject_of_inList value)⟩
      · cases h

/-- Fields read from an array are what their decoders yield. -/
theorem yields_of_readFields {r : Record α} {title : String} {depth total n : Nat}
    {s rest : List Char} {a : α} (h : readFields title depth total r s = .ok (a, n, rest)) :
    r.Yields a := by
  induction r generalizing n rest with
  | make value =>
    obtain ⟨rfl, -⟩ := Prod.mk.inj (Except.ok.inj h)
    rfl
  | field before name d absence ih =>
    rw [readFields] at h
    obtain ⟨⟨f, m, s⟩, earlier, h⟩ := Except.bind_eq_ok.mp h
    have front := ih earlier
    obtain ⟨⟨next, s'⟩, -, h⟩ := Except.bind_eq_ok.mp h
    cases next with
    | some s =>
      obtain ⟨⟨b, s'⟩, read, h⟩ := Except.bind_eq_ok.mp h
      obtain ⟨rfl, -⟩ := Prod.mk.inj (Except.ok.inj h)
      exact ⟨f, b, rfl, front, .inl (.inr ⟨depth, s, s', read⟩)⟩
    | none =>
      simp only at h
      split at h
      · next b value =>
        obtain ⟨rfl, -⟩ := Prod.mk.inj (Except.ok.inj h)
        exact ⟨f, b, rfl, front, .inr (inObject_of_inList value)⟩
      · cases h

/-- **A record that was read is put together from what the decoders of its fields yield.** -/
theorem yields {r : Record α} {title : String} {a : α} (h : (r.decoder title).Yields a) :
    r.Yields a := by
  rcases h with ⟨v, read⟩ | ⟨depth, s, rest, read⟩
  · cases v with
    | arr items =>
      obtain ⟨⟨b, n, left⟩, taken, ended⟩ := Except.bind_eq_ok.mp read
      simp only at ended
      split at ended
      · obtain rfl := Except.ok.inj ended
        exact yields_of_takeItems taken
      · cases ended
    | obj fields =>
      obtain ⟨slots, taken, built⟩ := Except.bind_eq_ok.mp read
      exact ((filled_empty r).takeMembers taken).build built
    | _ => cases read
  · simp only [decoder, Record.read] at read
    split at read
    · cases read
    · split at read
      · split at read
        · cases read
        · split at read
          · next fields =>
            obtain ⟨_, -, same⟩ := Except.map_eq_ok.mp read
            obtain ⟨rfl, -⟩ := Prod.mk.inj same
            exact yields_of_readFields fields
          · cases read
      · split at read
        · split at read
          · cases read
          · split at read
            · cases read
            · next members =>
              split at read
              · next built =>
                obtain ⟨rfl, -⟩ := Prod.mk.inj (Except.ok.inj read)
                exact ((filled_empty r).readMembers members).build built
              · cases read
        · cases read

end Record

end Colloquy.Json
