import Colloquy.Json.Token

/-! # Reading JSON text

`skipValue` passes over one value of any depth and only looks at its form; `wellFormed` asks whether
a whole text is one value.  `readTree` reads a value as it was written, members in order and
repeated ones kept, and refuses to nest deeper than its limit. -/

namespace Colloquy.Json

/-! ### Form alone -/

/-- An array or object that is still open. -/
inductive Frame where
  /-- An open array. -/
  | list
  /-- An open object. -/
  | object
deriving DecidableEq, Repr

namespace Frame

/-- The character that closes the frame. -/
def close : Frame → Char
  | list => ']'
  | object => '}'

/-- The fault of a text that ends within the frame. -/
def unfinished : Frame → Malformed
  | list => .endInList
  | object => .endInObject

/-- The fault of an item followed by neither a comma nor the end. -/
def unseparated : Frame → Malformed
  | list => .expectedListEnd
  | object => .expectedObjectEnd

end Frame

/-- Pass over a name and its colon, where the innermost frame is an object. -/
def skipKey (frame : Frame) (s : List Char) : Except Fault (List Char) :=
  match frame with
  | .list => .ok s
  | .object =>
    match skipSpace s with
    | [] => .error (.here .endInObject [])
    | c :: rest =>
      if c = '"' then do
        let s ← skipString rest
        match skipSpace s with
        | [] => .error (.here .endInObject [])
        | d :: rest => if d = ':' then .ok rest else .error (.next .expectedColon (d :: rest))
      else .error (.next .keyNotString (c :: rest))

mutual

/-- Pass over a value and then over all that closes the open frames. -/
def skipFrom : Nat → List Frame → List Char → Except Fault (List Char)
  | 0, _, s => .error (.here .endInValue s)
  | fuel + 1, frames, s =>
    match skipSpace s with
    | [] => .error (.here .endInValue [])
    | c :: rest =>
      if c = 'n' then do
        skipAfter fuel frames true (← readWord ['u', 'l', 'l'] rest)
      else if c = 't' then do
        skipAfter fuel frames true (← readWord ['r', 'u', 'e'] rest)
      else if c = 'f' then do
        skipAfter fuel frames true (← readWord ['a', 'l', 's', 'e'] rest)
      else if c = '-' then do
        skipAfter fuel frames true (← skipNumber rest)
      else if isDigit c then do
        skipAfter fuel frames true (← skipNumber (c :: rest))
      else if c = '"' then do
        skipAfter fuel frames true (← skipString rest)
      else if c = '[' then skipAfter fuel (.list :: frames) false rest
      else if c = '{' then skipAfter fuel (.object :: frames) false rest
      else .error (.next .expectedValue (c :: rest))

/-- Go on after a value, or after the opening of a frame, where no comma may stand yet. -/
def skipAfter : Nat → List Frame → Bool → List Char → Except Fault (List Char)
  | 0, _, _, s => .error (.here .endInValue s)
  | _ + 1, [], _, s => .ok s
  | fuel + 1, frame :: frames, comma, s =>
    match skipSpace s with
    | [] => .error (.here frame.unfinished [])
    | c :: rest =>
      if comma && c = ',' then do
        skipFrom fuel (frame :: frames) (← skipKey frame rest)
      else if c = frame.close then skipAfter fuel frames true rest
      else if comma then .error (.next frame.unseparated (c :: rest))
      else do
        skipFrom fuel (frame :: frames) (← skipKey frame (c :: rest))

end

/-- Pass over one value of any depth. -/
def skipValue (s : List Char) : Except Fault (List Char) :=
  skipFrom (2 * s.length + 2) [] s

/-- Refuse what follows a value. -/
def finish {α : Type} (r : α × List Char) : Except Fault α :=
  match skipSpace r.2 with
  | [] => .ok r.1
  | s => .error (.next .trailingCharacters s)

/-- Whether a text is one JSON value of any depth. -/
def wellFormed (s : List Char) : Bool :=
  match skipValue s with
  | .ok rest => (skipSpace rest).isEmpty
  | .error _ => false

/-! ### Lists and members -/

/-- The rest at which a fault within an array is placed: after the end that stands there, or after a
comma. -/
def pastList (s : List Char) : List Char :=
  match skipSpace s with
  | [] => []
  | c :: rest => if c = ']' then rest else if c = ',' then skipSpace rest else c :: rest

/-- The rest at which a fault within an object is placed. -/
def pastObject (s : List Char) : List Char :=
  match skipSpace s with
  | [] => []
  | c :: rest => if c = '}' then rest else c :: rest

/-- Settle a fault that arose within an array. -/
def Fault.inList (f : Fault) : Fault := f.placeAt (pastList f.rest)

/-- Settle a fault that arose within an object. -/
def Fault.inObject (f : Fault) : Fault := f.placeAt (pastObject f.rest)

/-- Find the next item of an array: its text, or `none` at the end, which is left in place. -/
def nextItem (first : Bool) (s : List Char) : Except Fault (Option (List Char) × List Char) :=
  match skipSpace s with
  | [] => .error (.here .endInList [])
  | c :: rest =>
    if c = ']' then .ok (none, c :: rest)
    else if first then .ok (some (c :: rest), c :: rest)
    else if c = ',' then
      match skipSpace rest with
      | [] => .error (.here .endInValue [])
      | d :: more =>
        if d = ']' then .error (.next .trailingComma (d :: more))
        else .ok (some (d :: more), d :: more)
    else .error (.next .expectedListEnd (c :: rest))

/-- Find the next member of an object: its name and the rest after it, or `none` at the end, which
is left in place. -/
def nextKey (first : Bool) (s : List Char) : Except Fault (Option String × List Char) :=
  match skipSpace s with
  | [] => .error (.here .endInObject [])
  | c :: rest =>
    if c = '}' then .ok (none, c :: rest)
    else if first then
      if c = '"' then (readString rest).map fun r => (some r.1, r.2)
      else .error (.next .keyNotString (c :: rest))
    else if c = ',' then
      match skipSpace rest with
      | [] => .error (.here .endInValue [])
      | d :: more =>
        if d = '"' then (readString more).map fun r => (some r.1, r.2)
        else if d = '}' then .error (.next .trailingComma (d :: more))
        else .error (.next .keyNotString (d :: more))
    else .error (.next .expectedObjectEnd (c :: rest))

/-- Pass over the colon after a name. -/
def skipColon (s : List Char) : Except Fault (List Char) :=
  match skipSpace s with
  | [] => .error (.here .endInObject [])
  | c :: rest => if c = ':' then .ok rest else .error (.next .expectedColon (c :: rest))

/-- Pass over the end of an array, where nothing else may stand. -/
def endList (s : List Char) : Except Fault (List Char) :=
  match skipSpace s with
  | [] => .error (.here .endInList [])
  | c :: rest =>
    if c = ']' then .ok rest
    else if c = ',' then
      match skipSpace rest with
      | d :: more =>
        if d = ']' then .error (.next .trailingComma (d :: more))
        else .error (.next .trailingCharacters (d :: more))
      | [] => .error (.here .trailingCharacters [])
    else .error (.next .trailingCharacters (c :: rest))

/-- Read the items of an array up to its end, which is left in place; each takes some of `fuel`
characters. -/
def readItems {α : Type} (item : List Char → Except Fault (α × List Char)) :
    Nat → Bool → List Char → Except Fault (List α × List Char)
  | 0, _, s => .error (.here .endInList s)
  | fuel + 1, first, s => do
    match ← nextItem first s with
    | (none, s) => .ok ([], s)
    | (some s, _) =>
      let (v, s) ← item s
      let (rest, s) ← readItems item fuel false s
      .ok (v :: rest, s)

/-- Read the members of an object up to its end, which is left in place. -/
def readMembers {α : Type} (value : List Char → Except Fault (α × List Char)) :
    Nat → Bool → List Char → Except Fault (List (String × α) × List Char)
  | 0, _, s => .error (.here .endInObject s)
  | fuel + 1, first, s => do
    match ← nextKey first s with
    | (none, s) => .ok ([], s)
    | (some name, s) =>
      let (v, s) ← value (← skipColon s)
      let (rest, s) ← readMembers value fuel false s
      .ok ((name, v) :: rest, s)

/-- Read an array after its opening bracket. -/
def readList {α : Type} (item : List Char → Except Fault (α × List Char)) (s : List Char) :
    Except Fault (List α × List Char) :=
  match readItems item (s.length + 1) true s with
  | .ok (items, rest) => (endList rest).map fun rest => (items, rest)
  | .error f => .error f.inList

/-- Read an object after its opening brace. -/
def readObject {α : Type} (value : List Char → Except Fault (α × List Char)) (s : List Char) :
    Except Fault (List (String × α) × List Char) :=
  match readMembers value (s.length + 1) true s with
  | .ok (fields, rest) => .ok (fields, pastObject rest)
  | .error f => .error f.inObject

/-! ### Values -/

/-- The deepest nesting that is read, plus one. -/
def depthLimit : Nat := 128

/-- Read a value as it is written; `depth` bounds the nesting. -/
def readTree : Nat → List Char → Except Fault (Json × List Char)
  | depth, s =>
    match skipSpace s with
    | [] => .error (.here .endInValue [])
    | c :: rest =>
      if c = 'n' then (readWord ['u', 'l', 'l'] rest).map fun s => (.null, s)
      else if c = 't' then (readWord ['r', 'u', 'e'] rest).map fun s => (.bool true, s)
      else if c = 'f' then (readWord ['a', 'l', 's', 'e'] rest).map fun s => (.bool false, s)
      else if c = '-' then (readNumber false rest).map fun r => (.num r.1, r.2)
      else if isDigit c then (readNumber true (c :: rest)).map fun r => (.num r.1, r.2)
      else if c = '"' then (readString rest).map fun r => (.str r.1, r.2)
      else if c = '[' || c = '{' then
        match depth with
        | 0 | 1 => .error (.next .tooDeep (c :: rest))
        | depth + 1 =>
          if c = '[' then (readList (readTree depth) rest).map fun r => (.arr r.1, r.2)
          else (readObject (readTree depth) rest).map fun r => (.obj r.1, r.2)
      else .error (.next .expectedValue (c :: rest))

/-- Read a whole text as one value, in canonical form. -/
def parse (text : List Char) : Except TextError Json :=
  match readTree depthLimit text >>= finish with
  | .ok v => .ok v.canonical
  | .error f => .error (.ofFault text f)

/-- Read a whole string as one value, in canonical form. -/
def ofText (text : String) : Except TextError Json := parse text.toList

end Colloquy.Json
