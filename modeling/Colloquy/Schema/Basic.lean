import Colloquy.Json.Basic

/-! # Schemas

A schema is a JSON document together with what it was compiled to, which tells the violations of a
value.  Whoever has a schema asks that and nothing else, so what is said of schemas holds whatever
compiles them.  `Schema.Validate` is how values are validated here, and `Schema.Document` makes
schemas of documents that pass the check of their form. -/

namespace Colloquy

/-- A compiled JSON Schema. -/
structure Schema where
  /-- The document. -/
  document : Json
  /-- The messages about all violations by a value. -/
  violations : Json → List String

/-- A schema is displayed as its document. -/
instance : Repr Schema := ⟨fun s precedence => reprPrec s.document precedence⟩

namespace Schema

/-- Whether two schemas are the same document. -/
def same (a b : Schema) : Bool := a.document.same b.document

/-- `isValid s v` if `v` violates nothing. -/
def isValid (s : Schema) (value : Json) : Bool := (s.violations value).isEmpty

end Schema

end Colloquy
