import Colloquy.Schema.Basic
import Colloquy.Schema.Pattern
import Colloquy.Schema.Reference

/-! # Validation

`violations` lists every way in which a value violates a schema: keywords in the order of their
names, members by name, items in order.  A keyword is given the violations of subschemas as a
function, so each is a plain definition. -/

namespace Colloquy.Schema

/-- The violations of a subschema by a value. -/
abbrev Check := Json → Json → List Violation

/-- The greatest size that a bound can state; bounds beyond it count as this one. -/
def greatestSize : Nat := 18446744073709551615

/-- The size that a value states, if it is a whole number. -/
def size? : Json → Option Nat
  | .num n =>
    if n.isWhole && decide (0 ≤ n.ratio.1) then
      some (min greatestSize (n.ratio.1 / n.ratio.2).toNat)
    else none
  | _ => none

/-- The members of an object. -/
def membersOf : Json → List (String × Json)
  | .obj fields => fields
  | _ => []

/-- The items of an array. -/
def itemsOf : Json → List Json
  | .arr items => items
  | _ => []

/-- Names that are required of an object and missing. -/
def missingNames (names : Json) (members : List (String × Json)) : List Violation :=
  (itemsOf names).filterMap fun
    | .str name => if (Json.lookup name members).isSome then none else some (.missing name)
    | _ => none

/-- The subschemas whose pattern occurs in a name. -/
def matching (patterns : Json) (name : String) : List Json :=
  (membersOf patterns).filterMap fun p =>
    match Pattern.ofText? p.1 with
    | some pattern => if pattern.occursIn name then some p.2 else none
    | none => none

/-- Whether `additionalProperties` takes over the members that other keywords describe. -/
def takesOver : Option Json → Bool
  | some (.bool false) => true
  | some (.obj _) => true
  | _ => false

/-- Members beyond those described: with a schema for them they are checked in turn with the others,
and with `false` they are listed after the violations of the others. -/
def additional (check : Check) (parent : List (String × Json)) (rule : Json)
    (members : List (String × Json)) : List Violation :=
  let properties := Json.lookup "properties" parent
  let patterns := Json.lookup "patternProperties" parent
  let described (m : String × Json) : List Json :=
    ((properties.bind fun p => Json.lookup m.1 (membersOf p)).toList) ++
      (patterns.toList.flatMap fun p => matching p m.1)
  let known (m : String × Json) : List Violation :=
    (described m).flatMap fun schema => check schema m.2
  match rule with
  | .bool false =>
    if properties.isNone && patterns.isNone then
      match members with
      | (_, v) :: _ => [.falseSchema v]
      | [] => []
    else
      let extra := members.filter fun m => (described m).isEmpty
      members.flatMap known ++
        (if extra.isEmpty then [] else [.extraProperties (extra.map (·.1))])
  | .obj _ =>
    members.flatMap fun m => if (described m).isEmpty then check rule m.2 else known m
  | _ => []

/-- Keywords about numbers. -/
def numberKeyword (name : String) (rule value : Json) : List Violation :=
  match rule, value with
  | .num limit, .num n =>
    match name with
    | "minimum" => if n.less limit then [.belowMinimum value rule] else []
    | "maximum" => if limit.less n then [.aboveMaximum value rule] else []
    | "exclusiveMinimum" => if limit.less n then [] else [.notAboveMinimum value rule]
    | "exclusiveMaximum" => if n.less limit then [] else [.notBelowMaximum value rule]
    | "multipleOf" => if n.isMultipleOf limit then [] else [.notMultiple value rule]
    | _ => []
  | _, _ => []

/-- A bound on a size. -/
def sizeKeyword (upper : Bool) (unit : Measure) (rule value : Json) (size : Nat) :
    List Violation :=
  match size? rule with
  | none => []
  | some limit =>
    if upper then (if limit < size then [.tooLarge value limit unit] else [])
    else (if size < limit then [.tooSmall value limit unit] else [])

/-- Keywords about strings. -/
def stringKeyword (name : String) (rule : Json) (text : String) : List Violation :=
  match name with
  | "minLength" => sizeKeyword false .character rule (.str text) text.length
  | "maxLength" => sizeKeyword true .character rule (.str text) text.length
  | "pattern" =>
    match rule with
    | .str p =>
      match Pattern.ofText? p with
      | some pattern => if pattern.occursIn text then [] else [.noMatch (.str text) p]
      | none => []
    | _ => []
  | _ => []

/-- Whether the number of fitting items is right: at least one, unless bounds say otherwise. -/
def containsEnough (parent : List (String × Json)) (count : Nat) : Bool :=
  let least := ((Json.lookup "minContains" parent).bind size?).getD 1
  let most := (Json.lookup "maxContains" parent).bind size?
  least ≤ count && (most.map fun n => decide (count ≤ n)).getD true

/-- Keywords about arrays. -/
def arrayKeyword (check : Check) (parent : List (String × Json)) (name : String) (rule : Json)
    (items : List Json) : List Violation :=
  match name with
  | "items" =>
    let described := (itemsOf ((Json.lookup "prefixItems" parent).getD .null)).length
    (items.drop described).flatMap (check rule)
  | "prefixItems" => ((itemsOf rule).zip items).flatMap fun r => check r.1 r.2
  | "minItems" => sizeKeyword false .item rule (.arr items) items.length
  | "maxItems" => sizeKeyword true .item rule (.arr items) items.length
  | "uniqueItems" =>
    match rule with
    | .bool true => if Json.allDistinct items then [] else [.notUnique (.arr items)]
    | _ => []
  | "contains" =>
    let count := (items.filter fun v => (check rule v).isEmpty).length
    if containsEnough parent count then [] else [.noneContained (.arr items)]
  | _ => []

/-- Keywords about objects. -/
def objectKeyword (check : Check) (parent : List (String × Json)) (name : String) (rule : Json)
    (members : List (String × Json)) : List Violation :=
  match name with
  | "properties" =>
    if takesOver (Json.lookup "additionalProperties" parent) then []
    else (membersOf rule).flatMap fun p => ((Json.lookup p.1 members).map (check p.2)).getD []
  | "patternProperties" =>
    if takesOver (Json.lookup "additionalProperties" parent) then []
    else
      (membersOf rule).flatMap fun p =>
        match Pattern.ofText? p.1 with
        | some pattern =>
          (members.filter fun m => pattern.occursIn m.1).flatMap fun m => check p.2 m.2
        | none => []
  | "additionalProperties" => additional check parent rule members
  | "required" => missingNames rule members
  | "minProperties" => sizeKeyword false .property rule (.obj members) members.length
  | "maxProperties" => sizeKeyword true .property rule (.obj members) members.length
  | "dependentRequired" =>
    (membersOf rule).flatMap fun d =>
      if (Json.lookup d.1 members).isSome then missingNames d.2 members else []
  | "dependentSchemas" =>
    (membersOf rule).flatMap fun d =>
      if (Json.lookup d.1 members).isSome then check d.2 (.obj members) else []
  | "dependencies" =>
    (membersOf rule).flatMap fun d =>
      if (Json.lookup d.1 members).isSome then
        match d.2 with
        | .arr _ => missingNames d.2 members
        | schema => check schema (.obj members)
      else []
  | "propertyNames" =>
    match rule with
    | .bool false => if members.isEmpty then [] else [.falseSchema (.obj members)]
    | _ => members.flatMap fun m => check rule (.str m.1)
  | _ => []

/-- The types that a `type` keyword allows. -/
def typesOf : Json → List ValueType
  | .str s => (ValueType.ofName? s).toList
  | .arr items =>
    let names := items.filterMap Json.asString?
    ValueType.all.filter fun t => names.contains t.name
  | _ => []

/-- Keywords about values of any type. -/
def anyKeyword (root : Json) (check : Check) (parent : List (String × Json)) (name : String)
    (rule value : Json) : List Violation :=
  match name with
  | "type" =>
    let types := typesOf rule
    if types.any fun t => t.holds value then []
    else
      match types with
      | [] => []
      | [t] => [.wrongType value t]
      | ts => [.wrongTypes value ts]
  | "enum" =>
    match rule with
    | .arr options => if options.any (Json.alike value) then [] else [.notListed value rule]
    | _ => []
  | "const" => if Json.alike value rule then [] else [.unexpected rule]
  | "allOf" => (itemsOf rule).flatMap fun schema => check schema value
  | "anyOf" =>
    if (itemsOf rule).any fun schema => (check schema value).isEmpty then []
    else [.noAlternative value name]
  | "oneOf" =>
    match ((itemsOf rule).filter fun schema => (check schema value).isEmpty).length with
    | 0 => [.noAlternative value name]
    | 1 => []
    | _ => [.manyAlternatives value]
  | "not" => if (check rule value).isEmpty then [.forbidden rule value] else []
  | "if" =>
    let branch := if (check rule value).isEmpty then "then" else "else"
    ((Json.lookup branch parent).map fun schema => check schema value).getD []
  | "$ref" | "$dynamicRef" =>
    match rule with
    | .str reference =>
      match resolve root reference with
      | .ok schema => check schema value
      | .error _ => []
    | _ => []
  | _ => []

/-- The violations of one keyword of a schema object. -/
def keyword (root : Json) (check : Check) (parent : List (String × Json)) (name : String)
    (rule value : Json) : List Violation :=
  anyKeyword root check parent name rule value ++
    match value with
    | .num _ => numberKeyword name rule value
    | .str text => stringKeyword name rule text
    | .arr items => arrayKeyword check parent name rule items
    | .obj members => objectKeyword check parent name rule members
    | _ => []

/-- The violations of a schema by a value, within a depth of nesting and references. -/
def violationsWithin (root : Json) : Nat → Json → Json → List Violation
  | 0, _, _ => []
  | depth + 1, schema, value =>
    match schema with
    | .bool false => [.falseSchema value]
    | .obj fields =>
      fields.flatMap fun field =>
        keyword root (violationsWithin root depth) fields field.1 field.2 value
    | _ => []

mutual

/-- Number of values within a value, itself included. -/
def weight : Json → Nat
  | .arr items => weightItems items + 1
  | .obj fields => weightFields fields + 1
  | _ => 1

/-- Number of values within items. -/
def weightItems : List Json → Nat
  | [] => 0
  | v :: rest => weight v + weightItems rest

/-- Number of values within members. -/
def weightFields : List (String × Json) → Nat
  | [] => 0
  | (_, v) :: rest => weight v + weightFields rest

end

/-- All violations of a document by a value.  A path of checks moves into the value or through
subschemas without coming back to one, so the product of the weights bounds its length. -/
def documentViolations (document value : Json) : List Violation :=
  violationsWithin document ((weight document + 1) * (weight value + 1)) document value

/-- The schema of a document, taken to be well-formed. -/
def compile (document : Json) : Schema where
  document := document
  violations value := (documentViolations document value).map Violation.message

end Colloquy.Schema
