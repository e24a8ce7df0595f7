import Colloquy.Json.Tagged
import Colloquy.Proofs.Except
import Colloquy.Proofs.Json.Canonical

/-! # Reading records

What a decoder makes of a value that is known.  `Decoder.Reads` says that a value is read as
something, and `Decoder.Takes` that it is no `null` besides.  The main statements are
`Record.decoder_takes`, that a record is read from its members whatever their order, given how each
field is read, and `Tagged.decoder_takes`, the same for an alternative that is told by a tag. -/

namespace Colloquy.Json

variable {α β : Type}

/-! ## Values that are read -/

namespace Decoder

/-- Whether a value is read as something, as it is written and in canonical form. -/
structure Reads (d : Decoder α) (v : Json) (a : α) : Prop where
  /-- It is read as it is written. -/
  written : d.ofJson v = .ok a
  /-- It is read in canonical form. -/
  canonical : d.ofJson v.canonical = .ok a

/-- Whether a value other than `null` is read as something. -/
structure Takes (d : Decoder α) (v : Json) (a : α) : Prop extends d.Reads v a where
  /-- It is not `null`. -/
  present : v ≠ .null

/-- A value in canonical form is read if it is read as it is written. -/
theorem Takes.of_canonical {d : Decoder α} {v : Json} {a : α} (present : v ≠ .null)
    (same : v.canonical = v) (written : d.ofJson v = .ok a) : d.Takes v a where
  present := present
  written := written
  canonical := by rwa [same]

/-- A string is read as its text. -/
theorem takes_string (s : String) : string.Takes (.str s) s :=
  .of_canonical nofun rfl rfl

/-- An integer is read if it is in range. -/
theorem takes_integer {expected : String} {ofInt? : Int → Option α} {i : JsonInt} {a : α}
    (accepted : ofInt? i.val = some a) : (integer expected ofInt?).Takes (.num (.int i)) a := by
  refine .of_canonical nofun rfl ?_
  simp only [integer, scalar, accepted]

/-- A natural number of 32 bits is read as such. -/
theorem takes_word (n : UInt32) : word.Takes (.ofUInt32 n) n := by
  have range : (0 : Int) ≤ n.toNat ∧ (n.toNat : Int) < 4294967296 := by
    have := n.toNat_lt
    omega
  exact takes_integer ((if_pos range).trans (congrArg some (UInt32.ofNat_toNat)))

/-- A natural number of 64 bits is read as such. -/
theorem takes_longWord (n : UInt64) : longWord.Takes (.ofInt n.toNat) n := by
  have bound := n.toNat_lt
  have range : (0 : Int) ≤ n.toNat ∧ (n.toNat : Int) < 18446744073709551616 := by omega
  have exact' : -9223372036854775808 ≤ (n.toNat : Int) ∧ (n.toNat : Int) < 18446744073709551616 := by
    omega
  rw [ofInt, JsonInt.ofInt?, dif_pos exact']
  exact takes_integer ((if_pos range).trans (congrArg some (UInt64.ofNat_toNat)))

/-- A byte is read as such. -/
theorem takes_byte (n : UInt8) : byte.Takes (.num (.int (.ofUInt8 n))) n := by
  have range : (0 : Int) ≤ n.toNat ∧ (n.toNat : Int) < 256 := by
    have := n.toNat_lt
    omega
  exact takes_integer ((if_pos range).trans (congrArg some (UInt8.ofNat_toNat)))

/-- Members in canonical form are read as they are. -/
theorem takes_object {fields : List (String × Json)}
    (canonical : (Json.obj fields).canonical = .obj fields) :
    object.Takes (.obj fields) fields := by
  refine .of_canonical nofun canonical ?_
  rw [Json.canonical] at canonical
  exact congrArg Except.ok (Json.obj.inj canonical)

/-- A value other than `null` is read where it may be `null`. -/
theorem Takes.option {d : Decoder α} {v : Json} {a : α} (h : d.Takes v a) :
    d.option.Takes v (some a) := by
  have some : ∀ {w : Json}, w ≠ .null → d.ofJson w = .ok a → d.option.ofJson w = .ok (some a) := by
    intro w present read
    cases w with
    | null => exact absurd rfl present
    | _ =>
      simp only [Decoder.option, read]
      rfl
  refine ⟨⟨some h.present h.written, some ?_ h.canonical⟩, h.present⟩
  cases v with
  | null => exact absurd rfl h.present
  | _ => exact nofun

/-- **An array is read if its items are.** -/
theorem takes_map {d : Decoder β} {f : α → Json} {g : α → β} {as : List α}
    (each : ∀ a ∈ as, d.Takes (f a) (g a)) :
    (list d).Takes (.arr (as.map f)) (as.map g) := by
  have read : ∀ h : α → Json, (∀ a ∈ as, d.ofJson (h a) = .ok (g a)) →
      (as.map h).mapM d.ofJson = .ok (as.map g) := by
    intro h each
    rw [List.mapM_map]
    exact Except.mapM_eq_ok_map each
  refine ⟨⟨read f fun a mem => (each a mem).written, ?_⟩, nofun⟩
  rw [Json.canonical, canonicalItems_eq_map, List.map_map]
  exact read _ fun a mem => (each a mem).canonical

/-- An array is read as what its items were written from. -/
theorem takes_list {d : Decoder α} {f : α → Json} {as : List α} (each : ∀ a ∈ as, d.Takes (f a) a) :
    (list d).Takes (.arr (as.map f)) as := by
  have read := takes_map (g := id) each
  rwa [List.map_id] at read

end Decoder

/-! ## Members that may be left out -/

/-- The members that are there, of members that may be left out. -/
def present (members : List (String × Option Json)) : List (String × Json) :=
  members.filterMap fun m => m.2.map fun v => (m.1, v)

/-- The value of an array member that is left out when it is empty. -/
def listed (items : List Json) : Option Json := if items = [] then none else some (.arr items)

@[simp] theorem present_nil : present [] = [] := rfl

/-- The members that are there come one after the other. -/
@[simp] theorem present_cons (name : String) (v : Option Json)
    (members : List (String × Option Json)) :
    present ((name, v) :: members) = optional name v ++ present members := by
  cases v <;> rfl

@[simp] theorem optional_some (name : String) (v : Json) : optional name (some v) = [(name, v)] :=
  rfl

@[simp] theorem optional_listed (name : String) (items : List Json) :
    optional name (listed items) = unlessEmpty name items := by
  cases items <;> rfl

/-- The members that are there are some of all, in the same order. -/
theorem sublist_present (members : List (String × Option Json)) :
    ((present members).map Prod.fst).Sublist (members.map Prod.fst) := by
  induction members with
  | nil => exact .slnil
  | cons m members ih =>
    obtain ⟨name, v⟩ := m
    cases v with
    | none => exact .cons _ ih
    | some v => exact .cons_cons _ ih

/-- The members that are there have distinct names if all have. -/
theorem nodup_present {members : List (String × Option Json)}
    (distinct : (members.map Prod.fst).Nodup) : ((present members).map Prod.fst).Nodup :=
  distinct.sublist (sublist_present members)

/-- A name stands for the value of the member that has it, if that is there. -/
theorem lookup_present {members : List (String × Option Json)}
    (distinct : (members.map Prod.fst).Nodup) (key : String) :
    lookup key (present members) = (members.lookup key).join := by
  induction members with
  | nil => rfl
  | cons m members ih =>
    obtain ⟨name, v⟩ := m
    obtain ⟨new, distinct⟩ := List.nodup_cons.mp distinct
    have later := ih distinct
    rw [List.lookup_cons]
    by_cases here : key = name
    · subst here
      have absent : lookup key (present members) = none := by
        rw [lookup_eq_none]
        intro mem
        obtain ⟨f, there, rfl⟩ := List.mem_map.mp mem
        obtain ⟨m, own, given⟩ := List.mem_filterMap.mp there
        obtain ⟨v, -, rfl⟩ := Option.map_eq_some_iff.mp given
        exact new (List.mem_map.mpr ⟨m, own, rfl⟩)
      rw [BEq.rfl]
      cases v with
      | none => exact absent
      | some v => exact if_pos rfl
    · have other : (key == name) = false := beq_false_of_ne here
      simp only [other]
      cases v with
      | none => exact later
      | some v => exact (if_neg (Ne.symm here)).trans later

/-! ## Records -/

namespace Record

/-- The names of the fields. -/
def names {α : Type} : Record α → List String
  | .make _ => []
  | .field before name _ _ => name :: before.names

/-- Whether a member, or its absence, gives the value of a field, where `Reads` says what is read as
what. -/
inductive FieldFits (Reads : {β : Type} → Decoder β → Json → β → Prop) (d : Decoder β)
    (absence : Absence β) : Option Json → β → Prop where
  /-- The member is there, and is read as the value. -/
  | given {v : Json} {b : β} (read : Reads d v b) : FieldFits Reads d absence (some v) b
  /-- The member is left out, and the value stands for it. -/
  | absent {b : β} (value : absence.inObject = some b) : FieldFits Reads d absence none b

/-- Whether members, by their names, give the fields of a record. -/
def Fits (Reads : {β : Type} → Decoder β → Json → β → Prop) (members : String → Option Json) :
    {α : Type} → Record α → α → Prop
  | _, .make value, a => a = value
  | _, .field before name d absence, a =>
    ∃ f b, a = f b ∧ Fits Reads members before f ∧ FieldFits Reads d absence (members name) b

/-- What members give depends only on what they are read as. -/
theorem Fits.mono {Reads Reads' : {β : Type} → Decoder β → Json → β → Prop}
    {members members' : String → Option Json} {change : Json → Json}
    (reads : ∀ {β : Type} {d : Decoder β} {v : Json} {b : β}, Reads d v b → Reads' d (change v) b)
    {r : Record α} {a : α} (found : ∀ name ∈ r.names, members' name = (members name).map change)
    (h : r.Fits Reads members a) : r.Fits Reads' members' a := by
  induction r with
  | make value => exact h
  | field before name d absence ih =>
    obtain ⟨f, b, rfl, earlier, here⟩ := h
    obtain ⟨last, others⟩ := List.forall_mem_cons.mp found
    refine ⟨f, b, rfl, ih others earlier, ?_⟩
    rw [last]
    generalize members name = member at here
    cases here with
    | given read => exact .given (reads read)
    | absent value => exact .absent value

/-! ### Members one by one -/

/-- A name that no field has leaves the slots alone. -/
theorem slot?_eq_none {r : Record α} {key : String} (absent : key ∉ r.names) (slots : r.Slots) :
    r.slot? key slots = none := by
  induction r with
  | make => rfl
  | field before name d absence ih =>
    obtain ⟨other, absent⟩ := not_or.mp (mt List.mem_cons.mpr absent)
    rw [slot?, if_neg other, ih absent]
    rfl

/-- Members are taken one after the other. -/
theorem takeMembers_cons (r : Record α) (slots : r.Slots) (key : String) (v : Json)
    (rest : List (String × Json)) : r.takeMembers slots ((key, v) :: rest) =
      r.takeMembers slots [(key, v)] >>= fun slots => r.takeMembers slots rest := by
  rw [takeMembers, takeMembers]
  cases r.slot? key slots with
  | none => rfl
  | some filled =>
    cases filled with
    | error p => rfl
    | ok d =>
      simp only
      cases d.ofJson v <;> rfl

section Field

variable {before : Record (β → α)} {name : String} {d : Decoder β} {absence : Absence β}

/-- A member of another name goes to the fields before. -/
theorem takeMembers_of_ne {key : String} (other : key ≠ name) (known : before.Slots)
    (here : Option β) (v : Json) :
    (field before name d absence).takeMembers (known, here) [(key, v)] =
      (before.takeMembers known [(key, v)]).map fun known => (known, here) := by
  simp only [takeMembers, slot?, if_neg other]
  cases before.slot? key known with
  | none => rfl
  | some filled =>
    cases filled with
    | error p => rfl
    | ok d' =>
      change ((d'.ofJson v).map _ >>= _) = ((d'.ofJson v >>= _).map _)
      cases d'.ofJson v <;> rfl

/-- Among other members, one of another name goes to the fields before. -/
theorem takeMembers_cons_of_ne (d : Decoder β) (absence : Absence β) {key : String} {v : Json}
    {rest : List (String × Json)} {known known' : before.Slots} (other : key ≠ name)
    (taken : before.takeMembers known ((key, v) :: rest) = .ok known') :
    ∃ next, before.takeMembers next rest = .ok known' ∧ ∀ here,
      (field before name d absence).takeMembers (known, here) ((key, v) :: rest) =
        (field before name d absence).takeMembers (next, here) rest := by
  rw [takeMembers_cons] at taken
  obtain ⟨next, first, later⟩ := Except.bind_eq_ok.mp taken
  refine ⟨next, later, fun here => (takeMembers_cons _ _ key v rest).trans ?_⟩
  rw [takeMembers_of_ne other, first]
  rfl

/-- Members of other names leave a field as it is. -/
theorem takeMembers_of_not_mem {fields : List (String × Json)} {known known' : before.Slots}
    {here : Option β} (absent : name ∉ fields.map Prod.fst)
    (taken : before.takeMembers known fields = .ok known') :
    (field before name d absence).takeMembers (known, here) fields = .ok (known', here) := by
  induction fields generalizing known with
  | nil =>
    obtain rfl := Except.ok.inj taken
    rfl
  | cons f fields ih =>
    obtain ⟨key, w⟩ := f
    obtain ⟨other, absent⟩ := not_or.mp (mt List.mem_cons.mpr absent)
    obtain ⟨next, later, step⟩ :=
      takeMembers_cons_of_ne d absence (Ne.symm other) taken
    exact (step here).trans (ih absent later)

/-- **The member that has a field's name is taken for it.** -/
theorem takeMembers_of_lookup {fields : List (String × Json)} {known known' : before.Slots}
    {v : Json} {b : β} (distinct : (fields.map Prod.fst).Nodup) (new : name ∉ before.names)
    (found : lookup name fields = some v) (read : d.ofJson v = .ok b)
    (taken : before.takeMembers known fields = .ok known') :
    (field before name d absence).takeMembers (known, none) fields = .ok (known', some b) := by
  induction fields generalizing known with
  | nil => cases found
  | cons f fields ih =>
    obtain ⟨key, w⟩ := f
    obtain ⟨once, distinct⟩ := List.nodup_cons.mp distinct
    rw [lookup] at found
    by_cases here : key = name
    · subst here
      rw [if_pos rfl] at found
      obtain rfl := Option.some.inj found
      rw [takeMembers, slot?_eq_none new] at taken
      have filled : (field before key d absence).takeMembers (known, none) ((key, w) :: fields) =
          (d.ofJson w).map (fun b => (known, some b)) >>= fun slots =>
            (field before key d absence).takeMembers slots fields := by
        simp only [takeMembers, slot?, if_true]
        rfl
      rw [filled, read]
      exact takeMembers_of_not_mem once taken
    · rw [if_neg here] at found
      obtain ⟨next, later, step⟩ :=
        takeMembers_cons_of_ne d absence here taken
      exact (step none).trans (ih distinct found later)

end Field

/-- **A record is built from members that give its fields**, in whatever order they come. -/
theorem ofFields_eq_ok {r : Record α} (names : r.names.Nodup) {fields : List (String × Json)}
    (distinct : (fields.map Prod.fst).Nodup) {a : α}
    (h : r.Fits (fun d v b => d.ofJson v = .ok b) (lookup · fields) a) :
    r.ofFields fields = .ok a := by
  -- Each field is known after all members have been taken, or stays unknown.
  have taken : ∃ slots, r.takeMembers r.empty fields = .ok slots ∧ r.build slots = .ok a := by
    induction r with
    | make value =>
      obtain rfl := h
      have skipped : ∀ fields, (make a).takeMembers () fields = .ok () := by
        intro fields
        induction fields with
        | nil => rfl
        | cons f fields ih => exact ih
      exact ⟨(), skipped fields, rfl⟩
    | field before name d absence ih =>
      obtain ⟨f, b, rfl, earlier, here⟩ := h
      obtain ⟨new, names⟩ := List.nodup_cons.mp names
      obtain ⟨known, taken, built⟩ := ih names earlier
      cases found : lookup name fields with
      | none =>
        simp only [found] at here
        cases here with
        | absent value =>
          refine ⟨(known, none), takeMembers_of_not_mem (lookup_eq_none.mp found) taken, ?_⟩
          simp only [build, built, value]
          rfl
      | some v =>
        simp only [found] at here
        cases here with
        | given read =>
          refine ⟨(known, some b), takeMembers_of_lookup distinct new found read taken, ?_⟩
          simp only [build, built]
          rfl
  obtain ⟨slots, taken, built⟩ := taken
  rw [ofFields, taken]
  exact built

/-- Members that give the fields of a record do so in canonical form as well. -/
theorem Fits.canonical {r : Record α} {fields : List (String × Json)} {a : α}
    (distinct : (fields.map Prod.fst).Nodup) (h : r.Fits Decoder.Reads (lookup · fields) a) :
    r.Fits (fun d v b => d.ofJson v = .ok b)
      (lookup · (sortFields (canonicalFields fields))) a := by
  refine h.mono (fun read => read.canonical) fun name _ => ?_
  rw [lookup_sortFields (by rwa [map_fst_canonicalFields]), lookup_canonicalFields]

section Present

variable {r : Record α} (title : String) (names : r.names.Nodup)
  {members : List (String × Option Json)} (distinct : (members.map Prod.fst).Nodup) {a : α}
  (h : r.Fits Decoder.Reads (fun key => (members.lookup key).join) a)

include names distinct h

/-- **A record is built from the members that are there**, if these give its fields. -/
theorem ofFields_present : r.ofFields (present members) = .ok a ∧
    r.ofFields (sortFields (canonicalFields (present members))) = .ok a := by
  have apart := nodup_present distinct
  have fits : r.Fits Decoder.Reads (lookup · (present members)) a := by
    simpa only [lookup_present distinct] using h
  refine ⟨ofFields_eq_ok names apart ?_, ?_⟩
  · exact fits.mono (fun read => read.written) fun name _ => Option.map_id'.symm
  · exact ofFields_eq_ok names (sorted_sortFields _).nodup (fits.canonical apart)

/-- **A record is read from the members that are there**, if these give its fields. -/
theorem decoder_takes : (r.decoder title).Takes (.obj (present members)) a := by
  obtain ⟨written, canonical⟩ := ofFields_present names distinct h
  refine ⟨⟨written, ?_⟩, nofun⟩
  rw [Json.canonical]
  exact canonical

/-- So it is where an array may go on after the fields. -/
theorem lenientDecoder_takes : (r.lenientDecoder title).Takes (.obj (present members)) a := by
  obtain ⟨written, canonical⟩ := ofFields_present names distinct h
  refine ⟨⟨written, ?_⟩, nofun⟩
  rw [Json.canonical]
  exact canonical

end Present

/-! ### Kinds of fields -/

section Fields

variable {members : String → Option Json} {name : String} {d : Decoder β}

/-- A record without fields. -/
theorem Fits.make (a : α) : (make a).Fits Decoder.Reads members a := rfl

/-- A field that has to be there. -/
theorem Fits.required {r : Record (β → α)} {f : β → α} {v : Json} {b : β}
    (h : r.Fits Decoder.Reads members f) (found : members name = some v) (read : d.Takes v b) :
    (r.required name d).Fits Decoder.Reads members (f b) :=
  ⟨f, b, rfl, h, found ▸ .given read.toReads⟩

/-- A field that may be missing and is there. -/
theorem Fits.orElse {r : Record (β → α)} {f : β → α} {v : Json} {b other : β}
    (h : r.Fits Decoder.Reads members f) (found : members name = some v) (read : d.Takes v b) :
    (r.orElse name d other).Fits Decoder.Reads members (f b) :=
  ⟨f, b, rfl, h, found ▸ .given read.toReads⟩

/-- A field that is left out when it has no value. -/
theorem Fits.optional {r : Record (Option β → α)} {f : Option β → α} {g : β → Json} {b : Option β}
    (h : r.Fits Decoder.Reads members f) (found : members name = b.map g)
    (each : ∀ x, b = some x → d.Takes (g x) x) :
    (r.optional name d).Fits Decoder.Reads members (f b) := by
  refine ⟨f, b, rfl, h, found ▸ ?_⟩
  cases b with
  | none => exact .absent rfl
  | some x => exact .given (each x rfl).option.toReads

/-- A field that is `null` when it has no value. -/
theorem Fits.orNull {r : Record (Option β → α)} {f : Option β → α} {g : β → Json} {b : Option β}
    (h : r.Fits Decoder.Reads members f) (found : members name = some ((b.map g).getD .null))
    (each : ∀ x, b = some x → d.Takes (g x) x) :
    (r.optional name d).Fits Decoder.Reads members (f b) := by
  refine ⟨f, b, rfl, h, found ▸ .given ?_⟩
  cases b with
  | none => exact ⟨rfl, rfl⟩
  | some x => exact (each x rfl).option.toReads

/-- A field that is left out when it has its standard value. -/
theorem Fits.unless {r : Record (β → α)} {f : β → α} {v : Option Json} {b other : β}
    (h : r.Fits Decoder.Reads members f) (found : members name = v)
    (given : ∀ w, v = some w → d.Takes w b) (absent : v = none → b = other) :
    (r.orElse name d other).Fits Decoder.Reads members (f b) := by
  refine ⟨f, b, rfl, h, found ▸ ?_⟩
  cases v with
  | none => exact .absent (congrArg some (absent rfl).symm)
  | some w => exact .given (given w rfl).toReads

/-- A list that is left out when it is empty. -/
theorem Fits.listed {r : Record (List β → α)} {f : List β → α} {g : β → Json} {xs : List β}
    (h : r.Fits Decoder.Reads members f) (found : members name = listed (xs.map g))
    (each : ∀ x ∈ xs, d.Takes (g x) x) :
    (r.orElse name (.list d) []).Fits Decoder.Reads members (f xs) := by
  refine ⟨f, xs, rfl, h, found ▸ ?_⟩
  cases xs with
  | nil => exact .absent rfl
  | cons x xs => exact .given (Decoder.takes_list each).toReads

end Fields

end Record

/-! ## Tagged alternatives -/

namespace Tagged

variable {t : Tagged α} {name : String} {read : Json → Except Problem α}

/-- Once the tag is known, members of other names are kept. -/
theorem takeMembers_of_not_mem {fields : List (String × Json)}
    (absent : t.tag ∉ fields.map Prod.fst) (seen : Option String) :
    t.takeMembers seen fields = .ok (seen, fields) := by
  induction fields with
  | nil => rfl
  | cons f fields ih =>
    obtain ⟨key, v⟩ := f
    obtain ⟨other, absent⟩ := not_or.mp (mt List.mem_cons.mpr absent)
    rw [takeMembers, if_neg (Ne.symm other), ih absent]
    rfl

/-- **The tag is set apart from the other members.** -/
theorem takeMembers_eq_ok {fields : List (String × Json)}
    (distinct : (fields.map Prod.fst).Nodup) (known : t.choose name = .ok read)
    (tagged : lookup t.tag fields = some (.str name)) :
    t.takeMembers none fields = .ok (some name, fields.filter fun f => f.1 ≠ t.tag) := by
  induction fields with
  | nil => cases tagged
  | cons f fields ih =>
    obtain ⟨key, v⟩ := f
    obtain ⟨once, distinct⟩ := List.nodup_cons.mp distinct
    rw [lookup] at tagged
    by_cases here : key = t.tag
    · rw [if_pos here] at tagged
      obtain rfl := Option.some.inj tagged
      have absent : t.tag ∉ fields.map Prod.fst := by rwa [← here]
      have others : (fields.filter fun f => f.1 ≠ t.tag) = fields := by
        refine List.filter_eq_self.mpr fun f mem => decide_eq_true fun same => absent ?_
        exact List.mem_map.mpr ⟨f, mem, same⟩
      have named : Decoder.identifier.ofJson (.str name) = .ok name := rfl
      rw [takeMembers, if_pos here, List.filter_cons_of_neg (by simp [here]), others]
      rw [if_neg (by simp), named]
      change (t.choose name >>= fun _ => t.takeMembers (some name) fields) = _
      rw [known]
      exact takeMembers_of_not_mem absent _
    · rw [if_neg here] at tagged
      rw [takeMembers, if_neg here, ih distinct tagged, List.filter_cons_of_pos (by simp [here])]
      rfl

/-- Setting the tag apart keeps what other names stand for. -/
theorem lookup_filter {key tag : String} (other : key ≠ tag) (fields : List (String × Json)) :
    lookup key (fields.filter fun f => f.1 ≠ tag) = lookup key fields := by
  induction fields with
  | nil => rfl
  | cons f fields ih =>
    obtain ⟨name, v⟩ := f
    by_cases here : name = tag
    · subst here
      rw [List.filter_cons_of_neg (by simp), ih, lookup, if_neg (Ne.symm other)]
    · rw [List.filter_cons_of_pos (by simp [here]), lookup, lookup, ih]

/-- An alternative is read from the members besides the tag. -/
theorem ofJson_eq_ok {r : Record α} {title : String}
    (known : t.choose name = .ok (ofRecord r title)) (free : t.tag ∉ r.names)
    (names : r.names.Nodup) {fields : List (String × Json)}
    (distinct : (fields.map Prod.fst).Nodup) (tagged : lookup t.tag fields = some (.str name))
    {a : α} (h : r.Fits (fun d v b => d.ofJson v = .ok b) (lookup · fields) a) :
    t.ofJson (.obj fields) = .ok a := by
  have apart : ((fields.filter fun f => f.1 ≠ t.tag).map Prod.fst).Nodup :=
    distinct.sublist (List.filter_sublist.map _)
  have built : r.ofFields (fields.filter fun f => f.1 ≠ t.tag) = .ok a := by
    refine Record.ofFields_eq_ok names apart (h.mono (fun read => read) fun key mem => ?_)
    have other : key ≠ t.tag := fun same => free (same ▸ mem)
    rw [lookup_filter other]
    exact Option.map_id'.symm
  rw [ofJson, takeMembers_eq_ok distinct known tagged]
  change (t.choose name >>= fun read => read (.obj (fields.filter fun f => f.1 ≠ t.tag))) = _
  rw [known]
  exact built

/-- **An alternative is read from the tag and the members that are there**, if these give its
fields. -/
theorem decoder_takes (name : String) (r : Record α) (title : String)
    (known : t.choose name = .ok (ofRecord r title)) (free : t.tag ∉ r.names)
    (names : r.names.Nodup) {members : List (String × Option Json)}
    (distinct : (members.map Prod.fst).Nodup)
    (tagged : (members.lookup t.tag).join = some (.str name)) {a : α}
    (h : r.Fits Decoder.Reads (fun key => (members.lookup key).join) a) :
    t.decoder.Takes (.obj (present members)) a := by
  have apart := nodup_present distinct
  have fits : r.Fits Decoder.Reads (lookup · (present members)) a := by
    simpa only [lookup_present distinct] using h
  rw [← lookup_present distinct] at tagged
  refine ⟨⟨ofJson_eq_ok known free names apart tagged ?_, ?_⟩, nofun⟩
  · exact fits.mono (fun read => read.written) fun name _ => Option.map_id'.symm
  · rw [Json.canonical]
    refine ofJson_eq_ok known free names (sorted_sortFields _).nodup ?_ (fits.canonical apart)
    rw [lookup_sortFields (by rwa [map_fst_canonicalFields]), lookup_canonicalFields, tagged]
    rfl

end Tagged

end Colloquy.Json
