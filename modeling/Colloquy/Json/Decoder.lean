import Colloquy.Json.Text

/-! # Decoders

A decoder reads one type from JSON text, with the place of any fault, and from a JSON value.
Records are described once, by `Record`, as a list of named fields with their decoders; the
description gives both readings, in either of the two written forms of a record: an object, or an
array of the fields in order. -/

namespace Colloquy.Json

/-- How to read a type from a text and from a value. -/
structure Decoder (α : Type) where
  /-- Read from the front of a text, within a depth of nesting. -/
  read : Nat → List Char → Except Fault (α × List Char)
  /-- Read a value. -/
  ofJson : Json → Except Problem α

namespace Decoder

variable {α β : Type}

/-- Apply a function to what is read. -/
def map (f : α → β) (d : Decoder α) : Decoder β where
  read depth s := (d.read depth s).map fun r => (f r.1, r.2)
  ofJson v := (d.ofJson v).map f

/-- Read a whole text. -/
def parse (d : Decoder α) (text : List Char) : Except TextError α :=
  match d.read depthLimit text >>= finish with
  | .ok v => .ok v
  | .error f => .error (.ofFault text f)

/-- Read a whole string. -/
def ofText (d : Decoder α) (text : String) : Except TextError α := d.parse text.toList

/-! ### Scalars -/

/-- The fault of a value of the wrong type: a scalar is read first, and an array or object is
reported where it begins. -/
def mismatch (expected : String) (s : List Char) : Fault :=
  match s with
  | [] => .here .endInValue []
  | c :: rest =>
    if c = '[' then ⟨.invalidType .sequence expected, s, 0, true⟩
    else if c = '{' then ⟨.invalidType .map expected, s, 0, true⟩
    else
      match readTree 0 (c :: rest) with
      | .ok (v, rest) => ⟨.invalidType (.ofJson v) expected, rest, 0, true⟩
      | .error f => f

/-- A decoder for a type whose values are scalars: `accept` looks at a scalar and either takes it or
says what is wrong. -/
def scalar (accepts : Char → Bool) (expected : String) (accept : Json → Except Problem α) :
    Decoder α where
  read _ s :=
    match skipSpace s with
    | [] => .error (.here .endInValue [])
    | c :: rest =>
      if accepts c then
        match readTree 0 (c :: rest) with
        | .error f => .error f
        | .ok (v, rest) =>
          match accept v with
          | .ok a => .ok (a, rest)
          | .error p => .error ⟨p, rest, 0, true⟩
      else .error (mismatch expected (c :: rest))
  ofJson := accept

/-- Whether a character begins a number. -/
def beginsNumber (c : Char) : Bool := c = '-' || isDigit c

/-- Whether a character begins a truth value. -/
def beginsBool (c : Char) : Bool := c = 't' || c = 'f'

/-- A string that is called `expected` in messages. -/
def text (expected : String) : Decoder String :=
  scalar (· = '"') expected fun
    | .str s => .ok s
    | v => .error (.invalidType (.ofJson v) expected)

/-- A string. -/
def string : Decoder String := text "a string"

/-- The name of an alternative. -/
def identifier : Decoder String := text "variant identifier"

/-- A truth value. -/
def bool : Decoder Bool :=
  scalar beginsBool "a boolean" fun
    | .bool b => .ok b
    | v => .error (.invalidType (.ofJson v) "a boolean")

/-- An integer with a range, given by a partial map into the type. -/
def integer (expected : String) (ofInt? : Int → Option α) : Decoder α :=
  scalar beginsNumber expected fun
    | .num (.int i) =>
      match ofInt? i.val with
      | some a => .ok a
      | none => .error (.invalidValue (.integer i.val) expected)
    | v => .error (.invalidType (.ofJson v) expected)

/-- A byte. -/
def byte : Decoder UInt8 :=
  integer "u8" fun i => if 0 ≤ i ∧ i < 256 then some (UInt8.ofNat i.toNat) else none

/-- A word of 16 bits. -/
def word16 : Decoder UInt16 :=
  integer "u16" fun i => if 0 ≤ i ∧ i < 65536 then some (UInt16.ofNat i.toNat) else none

/-- A word of 32 bits. -/
def word : Decoder UInt32 :=
  integer "u32" fun i => if 0 ≤ i ∧ i < 4294967296 then some (UInt32.ofNat i.toNat) else none

/-- A word of 64 bits. -/
def longWord : Decoder UInt64 :=
  integer "u64" fun i =>
    if 0 ≤ i ∧ i < 18446744073709551616 then some (UInt64.ofNat i.toNat) else none

/-- A signed integer of 64 bits. -/
def long : Decoder Int :=
  integer "i64" fun i =>
    if -9223372036854775808 ≤ i ∧ i < 9223372036854775808 then some i else none

/-- A single precision number; an integer is rounded once, any other number twice. -/
def single : Decoder Single :=
  scalar beginsNumber "f32" fun
    | .num (.int i) => .ok (.ofInt i.val)
    | .num (.float x) => .ok x.toSingle
    | v => .error (.invalidType (.ofJson v) "f32")

/-- A double precision number. -/
def double : Decoder Double :=
  scalar beginsNumber "f64" fun
    | .num (.int i) => .ok (.ofInt i.val)
    | .num (.float x) => .ok x
    | v => .error (.invalidType (.ofJson v) "f64")

/-- The literal `null`. -/
def unit : Decoder Unit :=
  scalar (· = 'n') "unit" fun
    | .null => .ok ()
    | v => .error (.invalidType (.ofJson v) "unit")

/-! ### Composite types -/

/-- Any value as it is written. -/
def tree : Decoder Json where
  read := readTree
  ofJson v := .ok v

/-- Any value, in canonical form. -/
def json : Decoder Json := tree.map canonical

/-- The members of an object, in canonical form. -/
def object : Decoder (List (String × Json)) where
  read depth s :=
    match skipSpace s with
    | [] => .error (.here .endInValue [])
    | c :: rest =>
      if c = '{' then
        if depth ≤ 1 then .error (.next .tooDeep (c :: rest))
        else
          (readObject (readTree (depth - 1)) rest).map fun r =>
            (sortFields (canonicalFields r.1), r.2)
      else .error (mismatch "a map" (c :: rest))
  ofJson
    | .obj fields => .ok (sortFields (canonicalFields fields))
    | v => .error (.invalidType (.ofJson v) "a map")

/-- A value that may be `null`. -/
def option (d : Decoder α) : Decoder (Option α) where
  read depth s :=
    match skipSpace s with
    | 'n' :: rest => (readWord ['u', 'l', 'l'] rest).map fun s => (none, s)
    | s => (d.read depth s).map fun r => (some r.1, r.2)
  ofJson
    | .null => .ok none
    | v => (d.ofJson v).map some

/-- An array. -/
def list (d : Decoder α) : Decoder (List α) where
  read depth s :=
    match skipSpace s with
    | [] => .error (.here .endInValue [])
    | c :: rest =>
      if c = '[' then
        if depth ≤ 1 then .error (.next .tooDeep (c :: rest))
        else readList (d.read (depth - 1)) rest
      else .error (mismatch "a sequence" (c :: rest))
  ofJson
    | .arr items => items.mapM d.ofJson
    | v => .error (.invalidType (.ofJson v) "a sequence")

/-! ### Alternatives -/

/-- What follows the name of an alternative. -/
inductive Payload (α : Type) where
  /-- Nothing: the bare name, or `null`. -/
  | bare (value : α)
  /-- One value. -/
  | newtype (decoder : Decoder α)

/-- The alternative of a name, as a result or a problem. -/
def choose (alternatives : List (String × Payload α)) (name : String) :
    Except Problem (Payload α) :=
  match alternatives.find? (·.1 = name) with
  | some (_, payload) => .ok payload
  | none => .error (.unknownVariant name (alternatives.map (·.1)))

/-- One of several named alternatives: the bare name, or an object whose only member has the name
and the payload. -/
def oneOf (alternatives : List (String × Payload α)) : Decoder α where
  read depth s :=
    match skipSpace s with
    | [] => .error (.here .endInValue [])
    | c :: rest =>
      if c = '"' then do
        let (name, rest) ← identifier.read depth (c :: rest)
        match choose alternatives name with
        | .error p => .error ⟨p, rest, 0, true⟩
        | .ok (.bare a) => .ok (a, rest)
        | .ok (.newtype _) =>
          .error ⟨.invalidType .unitVariant "newtype variant", rest, 0, false⟩
      else if c = '{' then
        if depth ≤ 1 then .error (.next .tooDeep (c :: rest))
        else do
          let (name, rest) ← identifier.read (depth - 1) rest
          match choose alternatives name with
          | .error p => .error ⟨p, rest, 0, true⟩
          | .ok payload =>
            let rest ← skipColon rest
            let (a, rest) ← match payload with
              | .bare a => (unit.read (depth - 1) rest).map fun r => (a, r.2)
              | .newtype d => d.read (depth - 1) rest
            match skipSpace rest with
            | [] => .error (.here .endInObject [])
            | c :: rest =>
              if c = '}' then .ok (a, rest) else .error (.here .expectedValue (c :: rest))
      else .error (.next .expectedValue (c :: rest))
  ofJson
    | .str name => do
      match ← choose alternatives name with
      | .bare a => .ok a
      | .newtype _ => .error (.invalidType .unitVariant "newtype variant")
    | .obj [(name, v)] => do
      match ← choose alternatives name with
      | .bare a => (unit.ofJson v).map fun _ => a
      | .newtype d => d.ofJson v
    | .obj _ => .error (.invalidValue .map "map with a single key")
    | v => .error (.invalidType (.ofJson v) "string or map")

/-- One of several bare names. -/
def names (alternatives : List (String × α)) : Decoder α :=
  oneOf (alternatives.map fun a => (a.1, .bare a.2))

end Decoder

/-! ### Records -/

/-- What stands for a field that is not there. -/
inductive Absence (α : Type) where
  /-- The field has to be there. -/
  | required
  /-- A member may be missing from an object, and has this value then; an array has to have it. -/
  | implied (value : α)
  /-- The field may be missing, and has this value then. -/
  | default (value : α)

namespace Absence

/-- The value of a member missing from an object. -/
def inObject {α : Type} : Absence α → Option α
  | required => none
  | implied a => some a
  | default a => some a

/-- The value of an item missing from an array. -/
def inList {α : Type} : Absence α → Option α
  | required => none
  | implied _ => none
  | default a => some a

end Absence

/-- A description of a record: a function of the fields, given one after the other. -/
inductive Record : Type → Type 1 where
  /-- No more fields. -/
  | make {α : Type} (value : α) : Record α
  /-- One more field after those before. -/
  | field {α β : Type} (before : Record (β → α)) (name : String) (decoder : Decoder β)
    (absence : Absence β) : Record α

namespace Record

variable {α β : Type}

/-- A field that has to be there. -/
def required (r : Record (β → α)) (name : String) (d : Decoder β) : Record α :=
  r.field name d .required

/-- A field that may be `null` or missing; it has to be there in an array. -/
def nullable (r : Record (Option β → α)) (name : String) (d : Decoder β) : Record α :=
  r.field name d.option (.implied none)

/-- A field that may be `null` or missing. -/
def optional (r : Record (Option β → α)) (name : String) (d : Decoder β) : Record α :=
  r.field name d.option (.default none)

/-- A field that may be missing, with its value then. -/
def orElse (r : Record (β → α)) (name : String) (d : Decoder β) (value : β) : Record α :=
  r.field name d (.default value)

/-- Number of fields. -/
def size {α : Type} : Record α → Nat
  | .make _ => 0
  | .field before _ _ _ => before.size + 1

/-- Places for the fields' values, as far as they are known. -/
def Slots {α : Type} : Record α → Type
  | .make _ => Unit
  | .field (β := β) before _ _ _ => before.Slots × Option β

/-- No field is known. -/
def empty {α : Type} : (r : Record α) → r.Slots
  | .make _ => ()
  | .field before _ _ _ => (before.empty, none)

/-- How to go on after a member's name: `none` if no field has it, otherwise a decoder of the slots
with the field filled in, unless the field is known already. -/
def slot? {α : Type} : (r : Record α) → String → r.Slots → Option (Except Problem (Decoder r.Slots))
  | .make _, _, _ => none
  | .field before name d _, key, slots =>
    let known := slots.1
    let here := slots.2
    if key = name then
      match here with
      | some _ => some (.error (.duplicateField name))
      | none => some (.ok (d.map fun v => (known, some v)))
    else
      (before.slot? key known).map fun found => found.map fun d => d.map fun known => (known, here)

/-- The record of the known fields; the first one missing in order is reported. -/
def build {α : Type} : (r : Record α) → r.Slots → Except Problem α
  | .make a, _ => .ok a
  | .field before name _ absence, slots => do
    let f ← before.build slots.1
    match slots.2 with
    | some v => .ok (f v)
    | none =>
      match absence.inObject with
      | some v => .ok (f v)
      | none => .error (.missingField name)

/-- How a record with a title is called where another value was found. -/
def expecting (r : Record α) (title : String) : String :=
  s!"{title} with {r.size} element" ++ (if r.size = 1 then "" else "s")

/-! Reading from text. -/

/-- Read the members of an object up to its end, which is left in place. -/
def readMembers (r : Record α) (depth : Nat) :
    Nat → Bool → r.Slots → List Char → Except Fault (r.Slots × List Char)
  | 0, _, _, s => .error (.here .endInObject s)
  | fuel + 1, first, slots, s => do
    match ← nextKey first s with
    | (none, s) => .ok (slots, s)
    | (some key, s) =>
      match r.slot? key slots with
      | none => r.readMembers depth fuel false slots (← skipValue (← skipColon s))
      | some (.error p) => .error ⟨p, s, 0, false⟩
      | some (.ok d) =>
        let (slots, s) ← d.read depth (← skipColon s)
        r.readMembers depth fuel false slots s

/-- Read the fields from an array, up to its end or the last field.  Also returns how many items
were there, and whether the next item is the first. -/
def readFields (title : String) (depth total : Nat) {α : Type} :
    Record α → List Char → Except Fault (α × Nat × List Char)
  | .make a, s => .ok (a, 0, s)
  | .field before _ d absence, s => do
    let (f, n, s) ← readFields title depth total before s
    match ← nextItem (n == 0) s with
    | (some s, _) =>
      let (v, s) ← d.read depth s
      .ok (f v, n + 1, s)
    | (none, s) =>
      match absence.inList with
      | some v => .ok (f v, n, s)
      | none =>
        .error ⟨.invalidLength n (title ++ s!" with {total} element" ++
          (if total = 1 then "" else "s")), s, 0, false⟩

/-- Read a record in either form. -/
def read (r : Record α) (title : String) (depth : Nat) (s : List Char) :
    Except Fault (α × List Char) :=
  match skipSpace s with
  | [] => .error (.here .endInValue [])
  | c :: rest =>
    if c = '[' then
      if depth ≤ 1 then .error (.next .tooDeep (c :: rest))
      else
        match readFields title (depth - 1) r.size r rest with
        | .ok (a, _, rest) => (endList rest).map fun rest => (a, rest)
        | .error f => .error f.inList
    else if c = '{' then
      if depth ≤ 1 then .error (.next .tooDeep (c :: rest))
      else
        match r.readMembers (depth - 1) (rest.length + 1) true r.empty rest with
        | .error f => .error f.inObject
        | .ok (slots, rest) =>
          match r.build slots with
          | .ok a => .ok (a, pastObject rest)
          | .error p => .error ⟨p, pastObject rest, 0, true⟩
    else .error (Decoder.mismatch title (c :: rest))

/-! Reading from values. -/

/-- Take the members of an object one by one. -/
def takeMembers (r : Record α) : r.Slots → List (String × Json) → Except Problem r.Slots
  | slots, [] => .ok slots
  | slots, (key, v) :: rest => do
    match r.slot? key slots with
    | none => r.takeMembers slots rest
    | some (.error p) => .error p
    | some (.ok d) => r.takeMembers (← d.ofJson v) rest

/-- Take the fields from items in order; also returns how many there were and the items left over.
-/
def takeItems (title : String) (total : Nat) {α : Type} :
    Record α → List Json → Except Problem (α × Nat × List Json)
  | .make a, items => .ok (a, 0, items)
  | .field before _ d absence, items => do
    let (f, n, items) ← takeItems title total before items
    match items with
    | v :: rest => .ok (f (← d.ofJson v), n + 1, rest)
    | [] =>
      match absence.inList with
      | some v => .ok (f v, n, [])
      | none =>
        .error (.invalidLength n (title ++ s!" with {total} element" ++
          (if total = 1 then "" else "s")))

/-- Read a record from the members of an object. -/
def ofFields (r : Record α) (fields : List (String × Json)) : Except Problem α := do
  r.build (← r.takeMembers r.empty fields)

/-- Read a record from a value; `tooLong` words the problem of an array with too many items. -/
def ofJson (r : Record α) (title : String) (tooLong : Nat → Nat → Problem) :
    Json → Except Problem α
  | .arr items => do
    let (a, n, rest) ← takeItems title r.size r items
    if rest.isEmpty then .ok a else .error (tooLong items.length n)
  | .obj fields => r.ofFields fields
  | v => .error (.invalidType (.ofJson v) title)

/-- The decoder of a record that is called `title` in messages. -/
def decoder (r : Record α) (title : String) : Decoder α where
  read := r.read title
  ofJson := r.ofJson title fun n _ => .invalidLength n "fewer elements in array"

/-- A decoder like `decoder`, except that an array value may go on after the fields. -/
def lenientDecoder (r : Record α) (title : String) : Decoder α where
  read := r.read title
  ofJson
    | .arr items => (takeItems title r.size r items).map (·.1)
    | .obj fields => r.ofFields fields
    | v => .error (.invalidType (.ofJson v) title)

end Record

end Colloquy.Json
