import Colloquy.Json.Print

/-! # Violations of schemas

The ways in which a value can violate a schema, with one wording each, and the numeric comparisons
that they rest on. -/

namespace Colloquy

namespace JsonNumber

/-- The number as a quotient of an integer by a positive natural. -/
def ratio : JsonNumber → Int × Nat
  | .int i => (i.val, 1)
  | .float x =>
    match x.value with
    | .finite negative m e =>
      let n := m * Nat.pow 2 e.toNat
      (if negative then -(n : Int) else n, Nat.pow 2 (-e).toNat)
    | _ => (0, 1)

/-- Whether a number is less than another. -/
def less (a b : JsonNumber) : Bool :=
  a.ratio.1 * b.ratio.2 < b.ratio.1 * a.ratio.2

/-- The nearest double. -/
def toDouble : JsonNumber → Double
  | .int i => .ofInt i.val
  | .float x => x

/-- Whether the number is whole. -/
def isWhole (a : JsonNumber) : Bool :=
  a.ratio.1 % a.ratio.2 = 0

/-- The shortest decimal that reads back as a double, without its sign, as a quotient. -/
def decimalRatio (x : Double) : Nat × Nat :=
  match x.value with
  | .finite _ m e =>
    if m = 0 then (0, 1)
    else
      let d := BinaryFormat.double.shortest m e
      (d.digits * Nat.pow 10 d.exponent.toNat, Nat.pow 10 (-d.exponent).toNat)
  | _ => (0, 1)

/-- Whether a double counts as a multiple of another, positive one.  A whole divisor has to divide
it.  For other divisors the quotient is rounded to a double first, and its fraction, which has the
sign of the quotient, has to stay below the distance of one to the next double; a quotient too large
for a double is taken of the shortest decimals of both, and has to be whole. -/
def isMultipleOf (a b : JsonNumber) : Bool :=
  let x := a.toDouble
  let y := b.toDouble
  if b.isWhole then
    match x.toInt?, y.toInt? with
    | some i, some j => decide (j ≠ 0) && i % j == 0
    | _, _ => false
  else
    match x.value, y.value with
    | .finite s m e, .finite t n f =>
      match (Double.ofScaled (s != t) m n (e - f)).value with
      | .finite negative q g =>
        let whole := Nat.pow 2 (-g).toNat
        negative || q % whole * Nat.pow 2 52 < whole
      | _ =>
        let (p, r) := decimalRatio x
        let (p', r') := decimalRatio y
        p * r' % (r * p') == 0
    | _, _ => false

end JsonNumber

namespace Json

mutual

/-- Whether two values are equal for a schema: numbers count by value. -/
def alike : Json → Json → Bool
  | .null, .null => true
  | .bool a, .bool b => a == b
  | .num a, .num b => a.toDouble.numericEq b.toDouble
  | .str a, .str b => a == b
  | .arr a, .arr b => alikeItems a b
  | .obj a, .obj b => alikeFields a b
  | _, _ => false

/-- Whether items are alike, place by place. -/
def alikeItems : List Json → List Json → Bool
  | [], [] => true
  | a :: as, b :: bs => alike a b && alikeItems as bs
  | _, _ => false

/-- Whether members are alike, place by place. -/
def alikeFields : List (String × Json) → List (String × Json) → Bool
  | [], [] => true
  | (m, a) :: as, (n, b) :: bs => m == n && alike a b && alikeFields as bs
  | _, _ => false

end

/-- Whether no two items are alike. -/
def allDistinct : List Json → Bool
  | [] => true
  | v :: rest => !(rest.any (alike v)) && allDistinct rest

end Json

namespace Schema

/-- The types of values that schemas tell apart, in alphabetical order. -/
inductive ValueType where
  /-- Arrays. -/
  | array
  /-- Truth values. -/
  | boolean
  /-- Whole numbers. -/
  | integer
  /-- The literal `null`. -/
  | null
  /-- All numbers. -/
  | number
  /-- Objects. -/
  | object
  /-- Strings. -/
  | string
deriving DecidableEq, Repr

namespace ValueType

/-- All types, in order. -/
def all : List ValueType := [array, boolean, integer, null, number, object, string]

/-- The name of a type. -/
def name : ValueType → String
  | array => "array"
  | boolean => "boolean"
  | integer => "integer"
  | null => "null"
  | number => "number"
  | object => "object"
  | string => "string"

/-- The type of a name. -/
def ofName? (s : String) : Option ValueType := all.find? (·.name = s)

/-- Whether a value is of a type. -/
def holds : ValueType → Json → Bool
  | array, .arr _ => true
  | boolean, .bool _ => true
  | integer, .num n => n.isWhole
  | null, .null => true
  | number, .num _ => true
  | object, .obj _ => true
  | string, .str _ => true
  | _, _ => false

end ValueType

/-- What is counted when a value is too large or too small. -/
inductive Measure where
  /-- Characters of a string. -/
  | character
  /-- Items of an array. -/
  | item
  /-- Members of an object. -/
  | property
deriving DecidableEq, Repr

/-- A way in which a value violates a schema. -/
inductive Violation where
  /-- Nothing is allowed here. -/
  | falseSchema (value : Json)
  /-- The value is not of the type. -/
  | wrongType (value : Json) (type : ValueType)
  /-- The value is of none of the types. -/
  | wrongTypes (value : Json) (types : List ValueType)
  /-- A member is missing. -/
  | missing (name : String)
  /-- The value is none of those listed. -/
  | notListed (value : Json) (options : Json)
  /-- The value is not the expected one. -/
  | unexpected (expected : Json)
  /-- The number is below the minimum. -/
  | belowMinimum (value limit : Json)
  /-- The number is above the maximum. -/
  | aboveMaximum (value limit : Json)
  /-- The number is not above the minimum. -/
  | notAboveMinimum (value limit : Json)
  /-- The number is not below the maximum. -/
  | notBelowMaximum (value limit : Json)
  /-- The number is no multiple. -/
  | notMultiple (value divisor : Json)
  /-- The value has too few units. -/
  | tooSmall (value : Json) (limit : Nat) (unit : Measure)
  /-- The value has too many units. -/
  | tooLarge (value : Json) (limit : Nat) (unit : Measure)
  /-- The string does not match. -/
  | noMatch (value : Json) (pattern : String)
  /-- The string is not of the format. -/
  | badFormat (value : Json) (format : String)
  /-- Two items are alike. -/
  | notUnique (value : Json)
  /-- Members that are not allowed. -/
  | extraProperties (names : List String)
  /-- No alternative fits. -/
  | noAlternative (value : Json) (keyword : String)
  /-- More than one alternative fits. -/
  | manyAlternatives (value : Json)
  /-- The value fits what it must not fit. -/
  | forbidden (schema value : Json)
  /-- No item fits, or the wrong number. -/
  | noneContained (value : Json)
  /-- A reference leads nowhere. -/
  | danglingPointer (pointer : String)
  /-- A reference names no anchor. -/
  | danglingAnchor (anchor : String)
  /-- The document is of a dialect that is not known. -/
  | unknownDialect (name : String)
deriving Repr

namespace Violation

/-- The unit after a number of them. -/
def unitName (n : Nat) : Measure → String
  | .character => if n = 1 then "character" else "characters"
  | .item => if n = 1 then "item" else "items"
  | .property => if n = 1 then "property" else "properties"

/-- How a lower bound is worded. -/
def fewer : Measure → String
  | .character => "is shorter than"
  | _ => "has less than"

/-- How an upper bound is worded. -/
def more : Measure → String
  | .character => "is longer than"
  | _ => "has more than"

/-- The wording of a violation. -/
def message : Violation → String
  | falseSchema v => "False schema does not allow " ++ v.compact
  | wrongType v t => v.compact ++ s!" is not of type \"{t.name}\""
  | wrongTypes v ts =>
    v.compact ++ " is not of types " ++
      String.intercalate ", " (ts.map fun t => "\"" ++ t.name ++ "\"")
  | missing name => (Json.str name).compact ++ " is a required property"
  | notListed v options => v.compact ++ " is not one of " ++ options.compact
  | unexpected expected => expected.compact ++ " was expected"
  | belowMinimum v limit => v.compact ++ " is less than the minimum of " ++ limit.compact
  | aboveMaximum v limit => v.compact ++ " is greater than the maximum of " ++ limit.compact
  | notAboveMinimum v limit =>
    v.compact ++ " is less than or equal to the minimum of " ++ limit.compact
  | notBelowMaximum v limit =>
    v.compact ++ " is greater than or equal to the maximum of " ++ limit.compact
  | notMultiple v divisor => v.compact ++ " is not a multiple of " ++ divisor.compact
  | tooSmall v n unit => v.compact ++ s!" {fewer unit} {n} {unitName n unit}"
  | tooLarge v n unit => v.compact ++ s!" {more unit} {n} {unitName n unit}"
  | noMatch v pattern => v.compact ++ " does not match \"" ++ pattern ++ "\""
  | badFormat v format => v.compact ++ s!" is not a \"{format}\""
  | notUnique v => v.compact ++ " has non-unique elements"
  | extraProperties names =>
    "Additional properties are not allowed (" ++
      String.intercalate ", " (names.map fun n => "'" ++ n ++ "'") ++
      (if names.length = 1 then " was unexpected)" else " were unexpected)")
  | noAlternative v keyword =>
    v.compact ++ s!" is not valid under any of the schemas listed in the '{keyword}' keyword"
  | manyAlternatives v =>
    v.compact ++ " is valid under more than one of the schemas listed in the 'oneOf' keyword"
  | forbidden schema v => schema.compact ++ " is not allowed for " ++ v.compact
  | noneContained v => "None of " ++ v.compact ++ " are valid under the given schema"
  | danglingPointer pointer => s!"Pointer '{pointer}' does not exist"
  | danglingAnchor anchor => s!"Anchor '{anchor}' does not exist"
  | unknownDialect name => s!"Unknown specification: {name}"

end Violation

end Schema

end Colloquy
