import Colloquy.Schema.Violation

/-! # References between schemas

A reference names a place in the schema's own document: by a pointer, a path of member names and
item numbers, or by an anchor that a subschema declares. -/

namespace Colloquy.Schema

/-- Undo the escapes of a path's step: `~1` is a slash, `~0` a tilde. -/
def unescapeStep : List Char → List Char
  | '~' :: '1' :: s => '/' :: unescapeStep s
  | '~' :: '0' :: s => '~' :: unescapeStep s
  | c :: s => c :: unescapeStep s
  | [] => []

/-- The value of a hexadecimal digit in a percent escape. -/
def percentDigit? (c : Char) : Option Nat :=
  if c.isDigit then some (c.toNat - 48)
  else if 'a' ≤ c && c ≤ 'f' then some (c.toNat - 87)
  else if 'A' ≤ c && c ≤ 'F' then some (c.toNat - 55)
  else none

/-- Undo percent escapes of ASCII characters. -/
def unescapePercent : List Char → List Char
  | '%' :: a :: b :: s =>
    match percentDigit? a, percentDigit? b with
    | some x, some y =>
      if x < 8 then Char.ofNat (x * 16 + y) :: unescapePercent s
      else '%' :: a :: b :: unescapePercent s
    | _, _ => '%' :: a :: b :: unescapePercent s
  | c :: s => c :: unescapePercent s
  | [] => []

/-- Split at every slash. -/
def splitSteps : List Char → List (List Char)
  | [] => [[]]
  | c :: s =>
    if c = '/' then [] :: splitSteps s
    else
      match splitSteps s with
      | first :: rest => (c :: first) :: rest
      | [] => [[c]]

/-- Follow a path into a value. -/
def follow? : List String → Json → Option Json
  | [], v => some v
  | step :: steps, .obj fields => (Json.lookup step fields).bind (follow? steps)
  | step :: steps, .arr items => step.toNat?.bind fun i => items[i]?.bind (follow? steps)
  | _ :: _, _ => none

/-- The value that a pointer names; the pointer begins with a slash. -/
def pointee? (pointer : List Char) (root : Json) : Option Json :=
  follow? ((splitSteps (unescapePercent pointer)).drop 1 |>.map fun s =>
    String.ofList (unescapeStep s)) root

mutual

/-- The first object that has a member of the given name and text. -/
def findMember? (name text : String) : Json → Option Json
  | .obj fields =>
    match Json.lookup name fields with
    | some (.str s) => if s = text then some (.obj fields) else findInFields? name text fields
    | _ => findInFields? name text fields
  | .arr items => findInItems? name text items
  | _ => none

/-- The first such object among items. -/
def findInItems? (name text : String) : List Json → Option Json
  | [] => none
  | v :: rest => (findMember? name text v).or (findInItems? name text rest)

/-- The first such object among members. -/
def findInFields? (name text : String) : List (String × Json) → Option Json
  | [] => none
  | (_, v) :: rest => (findMember? name text v).or (findInFields? name text rest)

end

/-- The schema that a reference names, or why there is none. -/
def resolve (root : Json) (reference : String) : Except Violation Json :=
  let s := reference.toList
  let base := String.ofList (s.takeWhile (· ≠ '#'))
  let fragment := (s.dropWhile (· ≠ '#')).drop 1
  let document := if base = "" then some root else findMember? "$id" base root
  match document with
  | none => .error (.danglingPointer reference)
  | some document =>
    match fragment with
    | [] => .ok document
    | '/' :: _ =>
      match pointee? fragment document with
      | some v => .ok v
      | none => .error (.danglingPointer (String.ofList fragment))
    | _ =>
      let anchor := String.ofList fragment
      match (findMember? "$anchor" anchor document).or
          (findMember? "$dynamicAnchor" anchor document) with
      | some v => .ok v
      | none => .error (.danglingAnchor anchor)

end Colloquy.Schema
