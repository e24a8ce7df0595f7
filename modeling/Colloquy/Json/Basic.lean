import Colloquy.Binary.Number

/-! # JSON values

A number is an integer that fits 64 bits, signed or unsigned, or a double.  The members of an object
form a list, so a document can be kept as it was written; `Json.canonical` orders the members by
name and keeps the last of several with one name, which is the form that every value of the
program's own has. -/

namespace Colloquy

/-- An integer that a JSON number holds exactly. -/
structure JsonInt where
  /-- The integer. -/
  val : Int
  /-- It is not below the signed 64-bit range. -/
  lower : -9223372036854775808 ≤ val
  /-- It is not above the unsigned 64-bit range. -/
  upper : val < 18446744073709551616
deriving DecidableEq, Repr

/-- A JSON number. -/
inductive JsonNumber where
  /-- An integer in the exact range. -/
  | int (value : JsonInt)
  /-- Any other number, as a double. -/
  | float (value : Double)
deriving DecidableEq, Repr

/-- A JSON value. -/
inductive Json where
  /-- The literal `null`. -/
  | null
  /-- A truth value. -/
  | bool (value : Bool)
  /-- A number. -/
  | num (value : JsonNumber)
  /-- A string. -/
  | str (value : String)
  /-- An array. -/
  | arr (items : List Json)
  /-- An object, as its members in order. -/
  | obj (fields : List (String × Json))
deriving Repr, Inhabited

namespace JsonInt

/-- A 32-bit word as a JSON integer. -/
def ofUInt32 (n : UInt32) : JsonInt :=
  ⟨n.toNat, by omega, by have := n.toNat_lt; omega⟩

/-- A byte as a JSON integer. -/
def ofUInt8 (n : UInt8) : JsonInt :=
  ⟨n.toNat, by omega, by have := n.toNat_lt; omega⟩

/-- An integer, if it is in the exact range. -/
def ofInt? (i : Int) : Option JsonInt :=
  if h : -9223372036854775808 ≤ i ∧ i < 18446744073709551616 then some ⟨i, h.1, h.2⟩ else none

end JsonInt

namespace Json

/-- A natural number of 32 bits. -/
def ofUInt32 (n : UInt32) : Json := .num (.int (.ofUInt32 n))

/-- An integer; one beyond the exact range becomes a double. -/
def ofInt (i : Int) : Json :=
  match JsonInt.ofInt? i with
  | some n => .num (.int n)
  | none => .num (.float (.ofInt i))

/-- A double; JSON has no number for infinities and not-a-numbers, so these become `null`. -/
def ofDouble (x : Double) : Json :=
  if x.isFinite then .num (.float x) else .null

/-- A single, widened to a double. -/
def ofSingle (x : Single) : Json := ofDouble x.toDouble

/-- The value of the first member of that name. -/
def lookup (name : String) : List (String × Json) → Option Json
  | [] => none
  | (key, value) :: rest => if key = name then some value else lookup name rest

/-- The member of that name, if the value is an object. -/
def field? (name : String) : Json → Option Json
  | .obj fields => lookup name fields
  | _ => none

/-- Put a member among members ordered by name, in place of one of the same name. -/
def insertField (name : String) (value : Json) : List (String × Json) → List (String × Json)
  | [] => [(name, value)]
  | (key, other) :: rest =>
    if name < key then (name, value) :: (key, other) :: rest
    else if name = key then (name, value) :: rest
    else (key, other) :: insertField name value rest

/-- Order members by name, the last of several with one name winning. -/
def sortFields (fields : List (String × Json)) : List (String × Json) :=
  fields.foldl (fun sorted field => insertField field.1 field.2 sorted) []

/-- An object of the given members. -/
def object (fields : List (String × Json)) : Json := .obj (sortFields fields)

mutual

/-- The value with the members of every object ordered by name. -/
def canonical : Json → Json
  | .arr items => .arr (canonicalItems items)
  | .obj fields => .obj (sortFields (canonicalFields fields))
  | v => v

/-- All items in canonical form. -/
def canonicalItems : List Json → List Json
  | [] => []
  | v :: rest => v.canonical :: canonicalItems rest

/-- All members with values in canonical form. -/
def canonicalFields : List (String × Json) → List (String × Json)
  | [] => []
  | (name, v) :: rest => (name, v.canonical) :: canonicalFields rest

end

mutual

/-- Equality of values as documents: kinds of numbers are kept apart, the two zeros are not. -/
def same : Json → Json → Bool
  | .null, .null => true
  | .bool a, .bool b => a == b
  | .num (.int a), .num (.int b) => a.val == b.val
  | .num (.float a), .num (.float b) => a.numericEq b
  | .str a, .str b => a == b
  | .arr a, .arr b => sameItems a b
  | .obj a, .obj b => sameFields a b
  | _, _ => false

/-- Equality of item lists, place by place. -/
def sameItems : List Json → List Json → Bool
  | [], [] => true
  | a :: as, b :: bs => same a b && sameItems as bs
  | _, _ => false

/-- Equality of member lists, place by place. -/
def sameFields : List (String × Json) → List (String × Json) → Bool
  | [], [] => true
  | (m, a) :: as, (n, b) :: bs => m == n && same a b && sameFields as bs
  | _, _ => false

end

/-! ## Equality

`Json.same` compares documents, and takes the two zeros for one.  `Json.beq` is equality itself,
by the same recursion; `Json.beq_iff` makes it decidable. -/

mutual

/-- Whether two values are equal, so that `v.beq w = true ↔ v = w`. -/
def beq : Json → Json → Bool
  | .null, .null => true
  | .bool a, .bool b => a = b
  | .num a, .num b => a = b
  | .str a, .str b => a = b
  | .arr a, .arr b => beqItems a b
  | .obj a, .obj b => beqFields a b
  | _, _ => false

/-- Whether two item lists are equal. -/
def beqItems : List Json → List Json → Bool
  | [], [] => true
  | a :: as, b :: bs => beq a b && beqItems as bs
  | _, _ => false

/-- Whether two member lists are equal. -/
def beqFields : List (String × Json) → List (String × Json) → Bool
  | [], [] => true
  | (m, a) :: as, (n, b) :: bs => m = n && beq a b && beqFields as bs
  | _, _ => false

end

mutual

/-- `beq` decides equality of values. -/
theorem beq_iff : ∀ v w : Json, v.beq w = true ↔ v = w
  | .arr as, w => by cases w <;> simp [beq, beqItems_iff as]
  | .obj fs, w => by cases w <;> simp [beq, beqFields_iff fs]
  | .null, w | .bool _, w | .num _, w | .str _, w => by cases w <;> simp [beq]

/-- `beqItems` decides equality of item lists. -/
theorem beqItems_iff : ∀ as bs : List Json, beqItems as bs = true ↔ as = bs
  | [], bs => by cases bs <;> simp [beqItems]
  | a :: as, bs => by cases bs <;> simp [beqItems, beq_iff a, beqItems_iff as]

/-- `beqFields` decides equality of member lists. -/
theorem beqFields_iff : ∀ fs gs : List (String × Json), beqFields fs gs = true ↔ fs = gs
  | [], gs => by cases gs <;> simp [beqFields]
  | (m, a) :: fs, gs => by
    cases gs <;> simp [beqFields, beq_iff a, beqFields_iff fs, Prod.ext_iff, and_assoc]

end

instance : DecidableEq Json := fun v w => decidable_of_iff _ (beq_iff v w)

/-! ## Members that may be absent -/

/-- The text of a string value. -/
def asString? : Json → Option String
  | .str s => some s
  | _ => none

/-- A member that is left out when it has no value. -/
def optional (name : String) : Option Json → List (String × Json)
  | some v => [(name, v)]
  | none => []

/-- An array member that is left out when it is empty. -/
def unlessEmpty (name : String) : List Json → List (String × Json)
  | [] => []
  | items => [(name, .arr items)]

end Json

end Colloquy
