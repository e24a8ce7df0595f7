import Colloquy.Json.Basic

/-! # Tables under construction

A TOML document says piecemeal what its tables hold: headers open tables, and dotted keys reach into
others.  What may be added to a table depends on how the table came about, so a table under
construction remembers that; once the document is complete it is a JSON object. -/

namespace Colloquy.Toml

/-- How a table came about. -/
inductive Origin where
  /-- By a header of its own; it is closed for dotted keys of other tables and other headers. -/
  | header
  /-- As a part of some other table's header; a header of its own may still follow. -/
  | parent
  /-- By a dotted key; only dotted keys may add to it. -/
  | dotted
deriving DecidableEq, Repr

/-- What a name stands for in a table under construction. -/
inductive Node where
  /-- A value, which is complete. -/
  | value (v : Json)
  /-- A table. -/
  | table (origin : Origin) (members : List (String × Node))
  /-- A list of tables, the last of which is the current one; lists end in that one. -/
  | tables (earlier : List (List (String × Node))) (last : List (String × Node))

/-- The members of a table under construction. -/
abbrev Members := List (String × Node)

namespace Members

/-- Change what a name stands for, or add the name. -/
def update (name : String) (f : Option Node → Option Node) : Members → Option Members
  | [] => (f none).map fun n => [(name, n)]
  | (key, n) :: rest =>
    if key = name then (f (some n)).map fun n => (key, n) :: rest
    else (update name f rest).map fun rest => (key, n) :: rest

/-- Give a value to a name that stands for nothing yet.  The path leads there through tables that
dotted keys may enter; those that are missing are made, and the innermost one has to be made by a
dotted key. -/
def assign (v : Json) : List String → String → Members → Option Members
  | [], name, t =>
    t.update name fun
      | none => some (.value v)
      | some _ => none
  | step :: path, name, t =>
    t.update step fun
      | none => (assign v path name []).map (.table .dotted)
      | some (.table .dotted t) => (assign v path name t).map (.table .dotted)
      | some (.table .parent t) =>
        if path.isEmpty then none else (assign v path name t).map (.table .parent)
      | some (.tables earlier t) =>
        if path.isEmpty then none else (assign v path name t).map (.tables earlier)
      | some _ => none

/-- Fill the table of a header, which is one of a list or stands alone.  The path leads there
through any tables. -/
def fill (listed : Bool) (body : Members → Option Members) :
    List String → String → Members → Option Members
  | [], name, t =>
    t.update name fun
      | none => (body []).map (if listed then .tables [] else .table .header)
      | some (.table .parent t) => if listed then none else (body t).map (.table .header)
      | some (.tables earlier t) =>
        if listed then (body []).map (.tables (earlier ++ [t])) else none
      | some _ => none
  | step :: path, name, t =>
    t.update step fun
      | none => (fill listed body path name []).map (.table .parent)
      | some (.value _) => none
      | some (.table origin t) => (fill listed body path name t).map (.table origin)
      | some (.tables earlier t) => (fill listed body path name t).map (.tables earlier)

end Members

mutual

/-- A completed node as a JSON value. -/
def Node.toJson : Node → Json
  | .value v => v
  | .table _ t => .obj (membersToJson t)
  | .tables earlier t => .arr (tablesToJson earlier ++ [.obj (membersToJson t)])

/-- Completed members as those of a JSON object. -/
def membersToJson : List (String × Node) → List (String × Json)
  | [] => []
  | (name, n) :: rest => (name, n.toJson) :: membersToJson rest

/-- Completed tables as JSON objects. -/
def tablesToJson : List (List (String × Node)) → List Json
  | [] => []
  | t :: rest => .obj (membersToJson t) :: tablesToJson rest

end

end Colloquy.Toml
