import Colloquy.Error
import Colloquy.Schema.Validate

/-! # Schema documents

The schema of schemas, and the check that a document is one: it satisfies the schema of schemas, its
references lead somewhere and its patterns can be read. -/

namespace Colloquy.Schema

/-! ### The schema of schemas -/

namespace Meta

/-- Values of a type. -/
def ofType (name : String) : Json := .object [("type", .str name)]

/-- A reference to a definition. -/
def ref (name : String) : Json := .object [("$ref", .str ("#/$defs/" ++ name))]

/-- A schema. -/
def schema : Json := .object [("$ref", .str "#")]

/-- An object whose members satisfy a schema. -/
def mapOf (values : Json) : Json :=
  .object [("type", .str "object"), ("additionalProperties", values)]

/-- Schemas and truth values with the given members. -/
def vocabulary (properties : List (String × Json)) : Json :=
  .object [("type", .arr [.str "object", .str "boolean"]), ("properties", .object properties)]

/-- Identification and references. -/
def core : Json :=
  vocabulary
    [("$id", .object [("$ref", .str "#/$defs/string"), ("pattern", .str "^[^#]*#?$")]),
      ("$schema", ofType "string"), ("$ref", ofType "string"), ("$anchor", ref "anchor"),
      ("$dynamicRef", ofType "string"), ("$dynamicAnchor", ref "anchor"),
      ("$vocabulary", .object [("type", .str "object"), ("propertyNames", ofType "string"),
        ("additionalProperties", ofType "boolean")]),
      ("$comment", ofType "string"), ("$defs", mapOf schema)]

/-- Application of subschemas. -/
def applicator : Json :=
  vocabulary
    [("prefixItems", ref "schemas"), ("items", schema), ("contains", schema),
      ("additionalProperties", schema), ("properties", mapOf schema),
      ("patternProperties", mapOf schema), ("dependentSchemas", mapOf schema),
      ("propertyNames", schema), ("if", schema), ("then", schema), ("else", schema),
      ("allOf", ref "schemas"), ("anyOf", ref "schemas"), ("oneOf", ref "schemas"),
      ("not", schema)]

/-- What other keywords leave unchecked. -/
def unevaluated : Json :=
  vocabulary [("unevaluatedItems", schema), ("unevaluatedProperties", schema)]

/-- Assertions. -/
def validation : Json :=
  vocabulary
    [("type", .object [("anyOf", .arr [ref "type", .object [("type", .str "array"),
        ("items", ref "type"), ("minItems", .ofInt 1), ("uniqueItems", .bool true)]])]),
      ("enum", ofType "array"),
      ("multipleOf", .object [("type", .str "number"), ("exclusiveMinimum", .ofInt 0)]),
      ("maximum", ofType "number"), ("exclusiveMaximum", ofType "number"),
      ("minimum", ofType "number"), ("exclusiveMinimum", ofType "number"),
      ("maxLength", ref "size"), ("minLength", ref "size"), ("pattern", ofType "string"),
      ("maxItems", ref "size"), ("minItems", ref "size"), ("uniqueItems", ofType "boolean"),
      ("maxContains", ref "size"), ("minContains", ref "size"), ("maxProperties", ref "size"),
      ("minProperties", ref "size"), ("required", ref "names"),
      ("dependentRequired", mapOf (ref "names"))]

/-- Annotations. -/
def annotation : Json :=
  vocabulary
    [("title", ofType "string"), ("description", ofType "string"),
      ("deprecated", ofType "boolean"), ("readOnly", ofType "boolean"),
      ("writeOnly", ofType "boolean"), ("examples", ofType "array")]

/-- Formats of strings. -/
def format : Json := vocabulary [("format", ofType "string")]

/-- Encoded contents of strings. -/
def content : Json :=
  vocabulary
    [("contentEncoding", ofType "string"), ("contentMediaType", ofType "string"),
      ("contentSchema", schema)]

/-- The schema of schemas: the vocabularies one after the other, and keywords of earlier times. -/
def document : Json :=
  .object
    [("$defs", .object
      [("anchor", .object [("type", .str "string"),
          ("pattern", .str "^[A-Za-z_][-A-Za-z0-9._]*$")]),
        ("string", ofType "string"),
        ("schemas", .object [("type", .str "array"), ("minItems", .ofInt 1), ("items", schema)]),
        ("size", .object [("type", .str "integer"), ("minimum", .ofInt 0)]),
        ("type", .object [("enum", .arr (ValueType.all.map fun t => .str t.name))]),
        ("names", .object [("type", .str "array"), ("items", ofType "string"),
          ("uniqueItems", .bool true)])]),
      ("allOf", .arr [core, applicator, unevaluated, validation, annotation, format, content]),
      ("type", .arr [.str "object", .str "boolean"]),
      ("properties", .object
        [("definitions", mapOf schema),
          ("dependencies", mapOf (.object [("anyOf", .arr [schema, ref "names"])])),
          ("$recursiveAnchor", ref "anchor"), ("$recursiveRef", ofType "string")])]

end Meta

/-! ### Checking documents -/

/-- The subschemas that one keyword applies. -/
def subschemas (parent : List (String × Json)) (name : String) (rule : Json) : List Json :=
  match name with
  | "allOf" | "anyOf" | "oneOf" | "prefixItems" => itemsOf rule
  | "items" | "contains" | "additionalProperties" | "propertyNames" | "not"
  | "unevaluatedItems" | "unevaluatedProperties" => [rule]
  | "properties" | "patternProperties" | "dependentSchemas" => (membersOf rule).map (·.2)
  | "dependencies" =>
    (membersOf rule).filterMap fun d => match d.2 with
      | .arr _ => none
      | schema => some schema
  | "if" =>
    let branches := (Json.lookup "then" parent).toList ++ (Json.lookup "else" parent).toList
    if branches.isEmpty then [] else rule :: branches
  | _ => []

/-- What cannot work in one keyword by itself. -/
def keywordFaults (name : String) (rule : Json) : List Violation :=
  match name, rule with
  | "pattern", .str p => if (Pattern.ofText? p).isSome then [] else [.badFormat rule "regex"]
  | "patternProperties", .obj fields =>
    if fields.all fun p => (Pattern.ofText? p.1).isSome then [] else [.badFormat rule "regex"]
  | _, _ => []

/-- What cannot work in a schema, within a depth; references that were followed are not followed
again. -/
def faultsWithin (root : Json) : Nat → List String → Json → List Violation
  | 0, _, _ => []
  | depth + 1, followed, .obj fields =>
    fields.flatMap fun field =>
      keywordFaults field.1 field.2 ++
        (subschemas fields field.1 field.2).flatMap (faultsWithin root depth followed) ++
        match field with
        | ("$ref", .str reference) | ("$dynamicRef", .str reference) =>
          if followed.contains reference then []
          else
            match resolve root reference with
            | .ok schema => faultsWithin root depth (reference :: followed) schema
            | .error v => [v]
        | _ => []
  | _ + 1, _, .bool _ => []
  | _ + 1, _, v => [.wrongTypes v [.boolean, .object]]

/-- The dialects by which a document may say that it is written. -/
def dialects : List String :=
  ["https://json-schema.org/draft/2020-12/schema", "https://json-schema.org/draft/2019-09/schema",
    "http://json-schema.org/draft-07/schema", "http://json-schema.org/draft-06/schema",
    "http://json-schema.org/draft-04/schema"]

/-- A document that names a dialect names a known one, hash signs at its end aside. -/
def dialectFaults (document : Json) : List Violation :=
  match Json.lookup "$schema" (membersOf document) with
  | some (.str name) =>
    let bare := String.ofList (name.toList.reverse.dropWhile (· = '#')).reverse
    if dialects.contains bare then [] else [.unknownDialect name]
  | _ => []

/-- What is wrong with a document: an unknown dialect, then violations of the schema of schemas,
then what cannot work. -/
def documentFaults (document : Json) : List Violation :=
  match dialectFaults document ++ documentViolations Meta.document document with
  | [] => faultsWithin document (weight document + 1) [] document
  | faults => faults

/-- The schema of a document, `compile document`, or the first thing that is wrong with it. -/
def ofDocument (document : Json) : Except SchemaError Schema :=
  match documentFaults document with
  | [] => .ok (compile document)
  | fault :: _ => .error (.invalidSchema fault.message)

/-- Check a value against a schema; the failure lists all violations. -/
def check (s : Schema) (value : Json) : Except SchemaError Unit :=
  match s.violations value with
  | [] => .ok ()
  | errors => .error (.validation errors)

end Colloquy.Schema
