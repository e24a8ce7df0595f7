import Colloquy.Json.Decoder

/-! # Tagged alternatives

A value whose kind is named by one of its own members, the tag, which may stand anywhere among them.
The other members are kept as they are written until the tag is known, so a fault in them has no
place of its own. -/

namespace Colloquy.Json

/-- Alternatives told apart by a tag member. -/
structure Tagged (α : Type) where
  /-- The name of the tag member. -/
  tag : String
  /-- How such a value is called where another was found. -/
  title : String
  /-- The alternatives: the tag's value, and how to read the other members. -/
  alternatives : List (String × (Json → Except Problem α))

namespace Tagged

variable {α : Type}

/-- The reading that belongs to a tag. -/
def choose (t : Tagged α) (name : String) : Except Problem (Json → Except Problem α) :=
  match t.alternatives.find? (·.1 = name) with
  | some (_, read) => .ok read
  | none => .error (.unknownVariant name (t.alternatives.map (·.1)))

/-- An alternative given by a record; called `title` in messages. -/
def ofRecord (r : Record α) (title : String) : Json → Except Problem α :=
  r.ofJson title fun length n =>
    .invalidLength length (s!"{n} element" ++ (if n = 1 then "" else "s") ++ " in sequence")

/-- Read the members of an object up to its end, the tag's value apart from the others. -/
def readMembers (t : Tagged α) (depth : Nat) :
    Nat → Bool → Option String → List Char →
      Except Fault ((Option String × List (String × Json)) × List Char)
  | 0, _, _, s => .error (.here .endInObject s)
  | fuel + 1, first, seen, s => do
    match ← nextKey first s with
    | (none, s) => .ok ((seen, []), s)
    | (some key, s) =>
      if key = t.tag then
        if seen.isSome then .error ⟨.duplicateField t.tag, s, 0, false⟩
        else
          let (name, s) ← Decoder.identifier.read depth (← skipColon s)
          match t.choose name with
          | .error p => .error ⟨p, s, 0, true⟩
          | .ok _ => t.readMembers depth fuel false (some name) s
      else
        let (v, s) ← readTree depth (← skipColon s)
        let ((name, fields), s) ← t.readMembers depth fuel false seen s
        .ok ((name, (key, v) :: fields), s)

/-- Read the members that belong to a tag. -/
def readContent (t : Tagged α) (name : String) (content : Json) (s : List Char) :
    Except Fault (α × List Char) :=
  match t.choose name >>= fun read => read content with
  | .ok a => .ok (a, s)
  | .error p => .error ⟨p, s, 0, false⟩

/-- Read an array of the tag's value and the fields after it, up to its end. -/
def readFields (t : Tagged α) (depth : Nat) (s : List Char) :
    Except Fault ((String × List Json) × List Char) := do
  match ← nextItem true s with
  | (none, s) => .error ⟨.missingField t.tag, s, 0, false⟩
  | (some s, _) =>
    let (name, s) ← Decoder.identifier.read depth s
    match t.choose name with
    | .error p => .error ⟨p, s, 0, true⟩
    | .ok _ =>
      let (items, s) ← readItems (readTree depth) (s.length + 1) false s
      .ok ((name, items), s)

/-- Read from a text. -/
def read (t : Tagged α) (depth : Nat) (s : List Char) : Except Fault (α × List Char) :=
  match skipSpace s with
  | [] => .error (.here .endInValue [])
  | c :: rest =>
    if c = '{' then
      if depth ≤ 1 then .error (.next .tooDeep (c :: rest))
      else
        match t.readMembers (depth - 1) (rest.length + 1) true none rest with
        | .error f => .error f.inObject
        | .ok ((none, _), rest) => .error ⟨.missingField t.tag, pastObject rest, 0, true⟩
        | .ok ((some name, fields), rest) => t.readContent name (.obj fields) (pastObject rest)
    else if c = '[' then
      if depth ≤ 1 then .error (.next .tooDeep (c :: rest))
      else
        match t.readFields (depth - 1) rest with
        | .error f => .error f.inList
        | .ok ((name, items), rest) => do t.readContent name (.arr items) (← endList rest)
    else .error (Decoder.mismatch t.title (c :: rest))

/-- Set the tag's value apart from the other members. -/
def takeMembers (t : Tagged α) :
    Option String → List (String × Json) →
      Except Problem (Option String × List (String × Json))
  | seen, [] => .ok (seen, [])
  | seen, (key, v) :: rest =>
    if key = t.tag then
      if seen.isSome then .error (.duplicateField t.tag)
      else do
        let name ← Decoder.identifier.ofJson v
        let _ ← t.choose name
        t.takeMembers (some name) rest
    else do
      let (name, fields) ← t.takeMembers seen rest
      .ok (name, (key, v) :: fields)

/-- Read from a value. -/
def ofJson (t : Tagged α) : Json → Except Problem α
  | .obj fields => do
    match ← t.takeMembers none fields with
    | (none, _) => .error (.missingField t.tag)
    | (some name, fields) => (← t.choose name) (.obj fields)
  | .arr [] => .error (.missingField t.tag)
  | .arr (v :: items) => do (← t.choose (← Decoder.identifier.ofJson v)) (.arr items)
  | v => .error (.invalidType (.ofJson v) t.title)

/-- The decoder of the alternatives. -/
def decoder (t : Tagged α) : Decoder α := ⟨t.read, t.ofJson⟩

end Tagged

end Colloquy.Json
