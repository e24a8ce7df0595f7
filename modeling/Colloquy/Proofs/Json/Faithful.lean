import Colloquy.Json.Decoder
import Colloquy.Proofs.Json.Printed

/-! # Faithful decoders

A decoder reads a type from text and from values.  It is faithful if it makes of the printed text of
a value what it makes of the value, so what is known of reading values carries over to texts.  The
main statements are `Record.faithful`, that a record is read faithfully if its fields are, and
`Decoder.Faithful.ofText_compact`. -/

namespace Colloquy.Json

variable {α β : Type}

/-- Only `null` is printed with its first letter. -/
theorem Plain.head?_ne {n : Nat} {v : Json} (h : Plain n v) (present : v ≠ .null) :
    ∀ c ∈ (print v).head?, c ≠ 'n' := by
  cases h with
  | null => exact absurd rfl present
  | bool b => cases b <;> simp [print]
  | str s => simp [print, printString]
  | arr => simp [print]
  | obj => simp [print]
  | int i =>
    intro c mem
    rw [print, printNumber, printInt] at mem
    split at mem
    · obtain rfl := Option.some.inj mem
      decide
    · obtain ⟨d, digits, text, digit, -⟩ := exists_toDigits i.val.natAbs
      rw [text] at mem
      obtain rfl := Option.some.inj mem
      rintro rfl
      cases digit

namespace Decoder

/-- Whether a decoder makes of the text of a value what it makes of the value. -/
structure Faithful (d : Decoder α) : Prop where
  /-- A value that is read is read back from its text, if it nests no deeper than is allowed. -/
  readsBack : ∀ {n depth : Nat} {v : Json} {a : α}, Plain n v → n ≤ depth - 1 → d.ofJson v = .ok a →
    ReadsBack (d.read depth) v a

/-- **A faithful decoder reads the compact text of a value as the value.** -/
theorem Faithful.ofText_compact {d : Decoder α} (h : d.Faithful) {v : Json} {a : α}
    (plain : Plain (depthLimit - 1) v) (read : d.ofJson v = .ok a) :
    d.ofText v.compact = .ok a := by
  have back : ReadsBack (d.read depthLimit) v a := h.readsBack plain (Nat.le_refl _) read
  have whole : d.read depthLimit (print v ++ []) = .ok (a, []) := back.value nofun
  rw [List.append_nil] at whole
  rw [ofText, parse, compact, String.toList_ofList, whole]
  rfl

/-- A function of what is read is read faithfully. -/
theorem Faithful.map {d : Decoder α} (h : d.Faithful) (f : α → β) : (d.map f).Faithful := by
  refine ⟨fun plain allowed read => ?_⟩
  obtain ⟨a, inner, rfl⟩ := Except.map_eq_ok.mp read
  have back := h.readsBack plain allowed inner
  refine ⟨fun ended => ?_, back.opening⟩
  simp only [Decoder.map, back.value ended]
  rfl

/-! ### Scalars -/

/-- A scalar is read faithfully if it is told by its first character. -/
theorem faithful_scalar {accepts : Char → Bool} {expected : String}
    {accept : Json → Except Problem α}
    (told : ∀ {n : Nat} {v : Json} {a : α}, Plain n v → accept v = .ok a →
      Plain 0 v ∧ ∀ c ∈ (print v).head?, accepts c = true) :
    (scalar accepts expected accept).Faithful := by
  refine ⟨fun {n depth v a} plain _ read => ?_⟩
  obtain ⟨flat, first⟩ := told plain read
  have tree : ReadsBack (readTree 0) v v := flat.readsBack (Nat.zero_le _)
  obtain ⟨c, s, text, visible, other⟩ := plain.opening
  refine ⟨fun {rest} ended => ?_, plain.opening⟩
  have value := tree.value ended
  have accepted : accepts c = true := first c (by rw [text]; rfl)
  have same : accept v = .ok a := read
  rw [text, List.cons_append] at value ⊢
  simp only [scalar, skipSpace_cons visible, accepted, if_true, value, same]

/-- Strings are read faithfully. -/
theorem faithful_text (expected : String) : (text expected).Faithful := by
  refine faithful_scalar fun plain read => ?_
  cases plain with
  | str s => exact ⟨.str s, by simp [print, printString]⟩
  | _ => cases read

/-- Integers are read faithfully, whatever their range. -/
theorem faithful_integer (expected : String) (ofInt? : Int → Option α) :
    (integer expected ofInt?).Faithful := by
  refine faithful_scalar fun plain read => ?_
  cases plain with
  | int i =>
    refine ⟨.int i, fun c mem => ?_⟩
    rw [print, printNumber, printInt] at mem
    split at mem
    · obtain rfl := Option.some.inj mem
      rfl
    · obtain ⟨d, digits, text, digit, -⟩ := exists_toDigits i.val.natAbs
      rw [text] at mem
      obtain rfl := Option.some.inj mem
      rw [beginsNumber, digit, Bool.or_true]
  | _ => cases read

/-! ### Composite types -/

/-- A value that may be `null` is read faithfully. -/
theorem Faithful.option {d : Decoder α} (h : d.Faithful) : d.option.Faithful := by
  refine ⟨fun {n depth v o} plain allowed read => ?_⟩
  by_cases null : v = .null
  · subst null
    obtain rfl := Except.ok.inj read
    refine ⟨fun _ => ?_, plain.opening⟩
    simp [Decoder.option, print, skipSpace_cons (c := 'n') rfl, readWord, Except.map]
  · have given : d.option.ofJson v = (d.ofJson v).map some := by
      cases v with
      | null => exact absurd rfl null
      | _ => rfl
    rw [given] at read
    obtain ⟨a, inner, rfl⟩ := Except.map_eq_ok.mp read
    have back := h.readsBack plain allowed inner
    obtain ⟨c, s, text, visible, other⟩ := plain.opening
    have letter : c ≠ 'n' := plain.head?_ne null c (by rw [text]; rfl)
    refine ⟨fun ended => ?_, plain.opening⟩
    have value := back.value ended
    rw [text, List.cons_append] at value ⊢
    simp only [Decoder.option, skipSpace_cons visible]
    split
    · next same => exact absurd (List.cons.inj same).1 letter
    · rw [value]
      rfl

/-- **An array is read faithfully if its items are.** -/
theorem Faithful.list {d : Decoder α} (h : d.Faithful) : (list d).Faithful := by
  refine ⟨fun {n depth v as} plain allowed read => ?_⟩
  cases plain with
  | @arr n items all =>
    have deeper : ¬depth ≤ 1 := by omega
    have each : List.Forall₂ (ReadsBack (d.read (depth - 1))) items as := by
      have both := (List.forall₂_and_left items as).mpr ⟨all, Except.mapM_eq_ok.mp read⟩
      exact both.imp fun v a item => h.readsBack item.1 (by omega) item.2
    refine ⟨fun {rest} _ => ?_, ⟨_, _, rfl, rfl, by decide⟩⟩
    rw [print, List.cons_append, List.append_assoc, List.singleton_append]
    simp [Decoder.list, skipSpace_cons (c := '[') rfl, deeper, readList_printItems each]
  | _ => cases read

end Decoder

namespace Record

/-- Whether the fields of a record are read faithfully. -/
def Faithful : {α : Type} → Record α → Prop
  | _, .make _ => True
  | _, .field before _ d _ => before.Faithful ∧ d.Faithful

/-- How to go on after a member's name is faithful. -/
theorem Faithful.slot? {r : Record α} (h : r.Faithful) {slots : r.Slots} {key : String}
    {d : Decoder r.Slots} (found : r.slot? key slots = some (.ok d)) : d.Faithful := by
  induction r with
  | make => cases found
  | field before name d' absence ih =>
    obtain ⟨others, last⟩ := h
    rw [Record.slot?] at found
    split at found
    · split at found
      · cases found
      · obtain rfl := Except.ok.inj (Option.some.inj found)
        exact last.map _
    · obtain ⟨next, there, same⟩ := Option.map_eq_some_iff.mp found
      obtain ⟨d'', rfl, rfl⟩ := Except.map_eq_ok.mp same
      exact (ih others there).map _

section Members

variable {r : Record α} {n depth : Nat} {slots slots' : r.Slots} {fields : List (String × Json)}

/-- **A member is taken from the text as it is from the value.** -/
theorem Faithful.member (h : r.Faithful) {f : String × Json} (plain : Plain n f.2)
    (allowed : n ≤ depth - 1) (taken : r.takeMembers slots (f :: fields) = .ok slots') :
    ∃ next, r.takeMembers next fields = .ok slots' ∧
      ∀ {fuel : Nat} {first : Bool} {s rest : List Char}, Delimited rest →
        nextKey first s = .ok (some f.1, ':' :: (print f.2 ++ rest)) →
          r.readMembers depth (fuel + 1) first slots s =
            r.readMembers depth fuel false next rest := by
  obtain ⟨key, v⟩ := f
  have colon : ∀ s, skipColon (':' :: s) = .ok s := fun s => by
    simp [skipColon, skipSpace_cons (c := ':') rfl]
  rw [takeMembers] at taken
  cases found : r.slot? key slots with
  | none =>
    -- No field has the name: the text is passed over for its form alone.
    rw [found] at taken
    refine ⟨slots, taken, fun ended named => ?_⟩
    rw [readMembers, named]
    simp only [bind, Except.bind, found, colon, skipValue_print plain ended]
  | some filled =>
    rw [found] at taken
    cases filled with
    | error p => cases taken
    | ok d =>
      obtain ⟨next, read, later⟩ := Except.bind_eq_ok.mp taken
      refine ⟨next, later, fun ended named => ?_⟩
      rw [readMembers, named]
      simp only [bind, Except.bind, found, colon,
        ((h.slot? found).readsBack plain allowed read).value ended]

/-- Members after the first are taken one after the other. -/
theorem Faithful.readMembers_flatMap (h : r.Faithful) (plain : ∀ f ∈ fields, Plain n f.2)
    (allowed : n ≤ depth - 1) (taken : r.takeMembers slots fields = .ok slots') {fuel : Nat}
    (enough : fields.length < fuel) (rest : List Char) :
    r.readMembers depth fuel false slots
        ((fields.flatMap fun f => ',' :: printMember f) ++ '\x7d' :: rest) =
      .ok (slots', '\x7d' :: rest) := by
  induction fields generalizing fuel slots with
  | nil =>
    cases fuel with
    | zero => cases enough
    | succ fuel =>
      obtain rfl := Except.ok.inj taken
      rfl
  | cons f fields ih =>
    cases fuel with
    | zero => cases enough
    | succ fuel =>
      obtain ⟨first, others⟩ := List.forall_mem_cons.mp plain
      obtain ⟨next, later, step⟩ := h.member first allowed taken
      rw [List.flatMap_cons, List.cons_append, List.cons_append, List.append_assoc, printMember,
        List.append_assoc, List.cons_append]
      rw [step (delimited_flatMap printMember fields (.inr rfl) rest) (nextKey_comma _ _)]
      exact ih others later (Nat.lt_of_succ_lt_succ enough)

/-- **Members are taken from the text as they are from the value.** -/
theorem Faithful.readMembers_printFields (h : r.Faithful) (plain : ∀ f ∈ fields, Plain n f.2)
    (allowed : n ≤ depth - 1) (taken : r.takeMembers slots fields = .ok slots') {fuel : Nat}
    (enough : fields.length < fuel) (rest : List Char) :
    r.readMembers depth fuel true slots (printFields fields ++ '\x7d' :: rest) =
      .ok (slots', '\x7d' :: rest) := by
  cases fuel with
  | zero => cases enough
  | succ fuel =>
    cases fields with
    | nil =>
      obtain rfl := Except.ok.inj taken
      rfl
    | cons f fields =>
      obtain ⟨first, others⟩ := List.forall_mem_cons.mp plain
      obtain ⟨next, later, step⟩ := h.member first allowed taken
      rw [printFields_cons, List.append_assoc, printMember, List.append_assoc, List.cons_append]
      rw [step (delimited_flatMap printMember fields (.inr rfl) rest) (nextKey_first _ _)]
      exact h.readMembers_flatMap others allowed later (Nat.lt_of_succ_lt_succ enough) rest

end Members

section Items

/-- What is printed of the items of an array that are left, after so many were read. -/
def printLeft (read : Nat) (items : List Json) : List Char :=
  if read = 0 then printItems items else items.flatMap fun v => ',' :: print v

/-- Nothing is printed of no items. -/
theorem printLeft_nil (read : Nat) : printLeft read [] = [] := by
  rw [printLeft]
  split <;> rfl

/-- The next item of an array is found after those that were read. -/
theorem nextItem_printLeft_cons (read : Nat) {n : Nat} {v : Json} (plain : Plain n v)
    (items : List Json) (rest : List Char) :
    ∃ s, nextItem (read == 0) (printLeft read (v :: items) ++ ']' :: rest) =
      .ok (some (print v ++ (printLeft (read + 1) items ++ ']' :: rest)), s) := by
  have left : printLeft (read + 1) items = items.flatMap fun v => ',' :: print v :=
    if_neg (Nat.succ_ne_zero read)
  obtain ⟨c, s, text, visible, other⟩ := plain.opening
  rw [left, printLeft]
  split
  · next none =>
    subst none
    rw [printItems_cons, List.append_assoc, text, List.cons_append]
    exact ⟨_, nextItem_first visible other _⟩
  · next some =>
    have further : (read == 0) = false := beq_false_of_ne some
    rw [List.flatMap_cons, List.cons_append, List.cons_append, List.append_assoc, text,
      List.cons_append, further]
    exact ⟨_, nextItem_comma visible other _⟩

/-- **Fields are read from the items of an array as they are from the values.** -/
theorem Faithful.readFields {r : Record α} (h : r.Faithful) {title : String} {total n depth : Nat}
    {items left : List Json} (plain : ∀ v ∈ items, Plain n v) (allowed : n ≤ depth - 1) {a : α}
    {read : Nat} (taken : takeItems title total r items = .ok (a, read, left))
    (rest : List Char) :
    (∀ v ∈ left, Plain n v) ∧
      readFields title depth total r (printItems items ++ ']' :: rest) =
        .ok (a, read, printLeft read left ++ ']' :: rest) := by
  induction r generalizing read left with
  | make value =>
    obtain ⟨rfl, same⟩ := Prod.mk.inj (Except.ok.inj taken)
    obtain ⟨rfl, rfl⟩ := Prod.mk.inj same
    exact ⟨plain, rfl⟩
  | field before name d absence ih =>
    obtain ⟨others, last⟩ := h
    rw [takeItems] at taken
    obtain ⟨⟨f, m, items'⟩, earlier, taken⟩ := Except.bind_eq_ok.mp taken
    obtain ⟨plain', front⟩ := ih others earlier
    rw [Record.readFields, front]
    -- The fields before have taken their items; this one has the next, or what stands for it.
    cases items' with
    | cons v items' =>
      obtain ⟨b, inner, taken⟩ := Except.bind_eq_ok.mp taken
      obtain ⟨rfl, same⟩ := Prod.mk.inj (Except.ok.inj taken)
      obtain ⟨rfl, rfl⟩ := Prod.mk.inj same
      obtain ⟨first, later⟩ := List.forall_mem_cons.mp plain'
      obtain ⟨s, next⟩ := nextItem_printLeft_cons m first items' rest
      have ended : Delimited (printLeft (m + 1) items' ++ ']' :: rest) := by
        rw [printLeft, if_neg (Nat.succ_ne_zero m)]
        exact delimited_flatMap print items' (.inl rfl) rest
      refine ⟨later, ?_⟩
      simp only [bind, Except.bind, next, (last.readsBack first allowed inner).value ended]
    | nil =>
      simp only at taken
      split at taken
      · next b value =>
        obtain ⟨rfl, same⟩ := Prod.mk.inj (Except.ok.inj taken)
        obtain ⟨rfl, rfl⟩ := Prod.mk.inj same
        have ended : nextItem (m == 0) (']' :: rest) = .ok (none, ']' :: rest) := rfl
        refine ⟨nofun, ?_⟩
        simp only [bind, Except.bind, printLeft_nil, List.nil_append, ended]
      · cases taken

end Items

/-- **A record is read faithfully if its fields are**, in either of its forms. -/
theorem faithful {r : Record α} {title : String} (h : r.Faithful) :
    (r.decoder title).Faithful := by
  refine ⟨fun {n depth v a} plain allowed read => ⟨fun {rest} _ => ?_, plain.opening⟩⟩
  cases plain with
  | @obj n fields all =>
    have deeper : ¬depth ≤ 1 := by omega
    obtain ⟨slots, taken, built⟩ := Except.bind_eq_ok.mp read
    have enough : fields.length < (printFields fields ++ '\x7d' :: rest).length + 1 := by
      have := length_le_length_printFields fields
      rw [List.length_append]
      omega
    have members := h.readMembers_printFields all (by omega : n ≤ depth - 1 - 1) taken enough rest
    have ended : pastObject ('\x7d' :: rest) = rest := rfl
    rw [print, List.cons_append, List.append_assoc, List.singleton_append]
    simp only [decoder, Record.read, skipSpace_cons (c := '\x7b') rfl, Char.reduceEq, if_true,
      if_false, deeper, members, built, ended]
  | @arr n items all =>
    have deeper : ¬depth ≤ 1 := by omega
    obtain ⟨⟨b, m, left⟩, taken, last⟩ := Except.bind_eq_ok.mp read
    simp only at last
    -- No item may be left over.
    split at last
    · next none =>
      obtain rfl := Except.ok.inj last
      obtain rfl := List.isEmpty_iff.mp none
      obtain ⟨-, fields⟩ := h.readFields all (by omega : n ≤ depth - 1 - 1) taken rest
      have ended : endList (']' :: rest) = .ok rest := rfl
      rw [printLeft_nil, List.nil_append] at fields
      rw [print, List.cons_append, List.append_assoc, List.singleton_append]
      simp only [decoder, Record.read, skipSpace_cons (c := '[') rfl, if_true, if_false, deeper,
        fields, ended, Except.map]
    · cases last
  | _ => cases read

end Record

end Colloquy.Json
