import Colloquy.Agent.Tool
import Colloquy.Proofs.Chat.Stored
import Mathlib.Data.List.DropRight

/-! # Stored tools

Definitions and results of tools are written as JSON and read back.  Either may have a value of any
kind, which is left out when there is none.  A `null` there is written, and read as no value.  The
main statement is `toolRecords_roundTrip`: nothing but such a `null` is lost. -/

namespace Colloquy

open Json (present)

/-! ## Values of any kind -/

namespace Json

/-- What is read of a value that may be left out. -/
def kept : Option Json → Option Json
  | some .null => none
  | v => v

/-- Only `null` is lost. -/
theorem kept_eq_self {v : Option Json} : kept v = v ↔ v ≠ some .null := by
  cases v with
  | none => simp [kept]
  | some w => cases w <;> simp [kept]

/-- The canonical form of a value is `null` only for `null`. -/
theorem canonical_eq_null {v : Json} : v.canonical = .null ↔ v = .null := by
  cases v <;> simp [canonical]

/-- A value that does not begin as `null` does is not `null`. -/
theorem ne_null_of_readTree {depth : Nat} {s rest : List Char} {v : Json}
    (other : ∀ rest, skipSpace s ≠ 'n' :: rest) (read : readTree depth s = .ok (v, rest)) :
    v ≠ .null := by
  have made : ∀ {β : Type} {answer : Except Fault β} {f : β → Json × List Char},
      answer.map f = .ok (v, rest) → (∀ b, (f b).1 ≠ .null) → v ≠ .null := by
    intro β answer f read given
    obtain ⟨b, -, same⟩ := Except.map_eq_ok.mp read
    obtain rfl : (f b).1 = v := congrArg Prod.fst same
    exact given b
  rw [readTree] at read
  split at read
  · cases read
  · next c rest seen =>
    have first : c ≠ 'n' := by
      rintro rfl
      exact other rest seen
    rw [if_neg first] at read
    -- The other literals, numbers and strings.
    iterate 5
      split at read
      · exact made read fun _ => nofun
    split at read
    · split at read
      · cases read
      · cases read
      · split at read
        · exact made read fun _ => nofun
        · exact made read fun _ => nofun
    · cases read

namespace Decoder

/-- A value in canonical form is read as it is. -/
theorem reads_json {v : Json} (canonical : v.canonical = v) : json.Reads v v where
  written := congrArg Except.ok canonical
  canonical := by
    rw [canonical]
    exact congrArg Except.ok canonical

/-- A truth value is read as such. -/
theorem takes_bool (b : Bool) : bool.Takes (.bool b) b :=
  .of_canonical nofun rfl rfl

/-- **A value that was read where none need be** is not `null`. -/
theorem Yields.payload {v : Option Json} (h : json.option.Yields v) : v ≠ some .null := by
  have given : ∀ tree : Json, tree ≠ .null → v = some tree.canonical → v ≠ some .null := by
    rintro tree present rfl same
    exact present (canonical_eq_null.mp (Option.some.inj same))
  -- A tree shows what it is; of a text the first character does.
  rcases h with ⟨tree, read⟩ | ⟨depth, s, rest, read⟩
  · cases tree with
    | null =>
      obtain rfl := Except.ok.inj read
      exact nofun
    | _ =>
      refine given _ ?_ (Except.ok.inj read).symm
      exact nofun
  · simp only [option] at read
    split at read
    · obtain ⟨_, -, same⟩ := Except.map_eq_ok.mp read
      obtain ⟨rfl, -⟩ := Prod.mk.inj same
      exact nofun
    · next other =>
      obtain ⟨⟨_, rest'⟩, read, same⟩ := Except.map_eq_ok.mp read
      obtain ⟨⟨tree, _⟩, made, same'⟩ := Except.map_eq_ok.mp read
      obtain ⟨rfl, rfl⟩ := Prod.mk.inj same'
      refine given tree (ne_null_of_readTree (fun rest => ?_) made) (Prod.mk.inj same).1.symm
      rw [skipSpace, skipSpace, List.dropWhile_idempotent]
      exact other rest

end Decoder

/-- **A value is read where none need be**, unless it is `null`. -/
theorem Record.Fits.payload {α : Type} {members : String → Option Json} {name : String}
    {r : Record (Option Json → α)} {f : Option Json → α} {v : Option Json}
    (h : r.Fits Decoder.Reads members f) (found : members name = v)
    (canonical : ∀ w, v = some w → w.canonical = w) :
    (r.optional name .json).Fits Decoder.Reads members (f (kept v)) := by
  refine ⟨f, kept v, rfl, h, ?_⟩
  rw [found]
  cases v with
  | none => exact .absent rfl
  | some w =>
    by_cases null : w = .null
    · subst null
      exact .given ⟨rfl, rfl⟩
    · have reads : Decoder.json.Takes w w := ⟨Decoder.reads_json (canonical w rfl), null⟩
      rw [kept_eq_self.mpr fun same => null (Option.some.inj same)]
      exact .given reads.option.toReads

end Json

/-! ## Definitions and results -/

namespace ToolResult

/-- Whether the objects in a result's data are maps. -/
def Canonical (r : ToolResult) : Prop := ∀ v, r.structuredContent = some v → v.canonical = v

/-- What is read of a result. -/
def stored (r : ToolResult) : ToolResult :=
  { r with structuredContent := Json.kept r.structuredContent }

/-- **A result is read from its members.** -/
theorem takes_stored {r : ToolResult} (h : r.Canonical) : decoder.Takes r.toJson r.stored := by
  have members : r.toJson = .obj (present [
      ("content", some (.arr (r.content.map ContentPart.toJson))),
      ("is_error", some (.bool r.isError)), ("structured_content", r.structuredContent)]) := by
    simp [toJson]
  rw [members]
  refine Json.Record.decoder_takes _ (by decide) (by simp) ?_
  refine .orElse (.payload (.required (.make _) rfl ?_) rfl h) rfl ?_
  · exact Json.Decoder.takes_list fun p _ => p.takes
  · exact Json.Decoder.takes_bool r.isError

/-- Nothing of a result is lost unless its data is `null`. -/
theorem stored_eq_self {r : ToolResult} : r.stored = r ↔ r.structuredContent ≠ some .null := by
  rw [← Json.kept_eq_self]
  refine ⟨congrArg structuredContent, fun same => ?_⟩
  rw [stored, same]

/-- A result that was read has no `null` for its data. -/
theorem payload_of_yields {r : ToolResult} (h : decoder.Yields r) :
    r.structuredContent ≠ some .null := by
  obtain ⟨_, _, rfl, ⟨_, content, rfl, ⟨_, _, rfl, rfl, -⟩, read | absent⟩, -⟩ :=
    Json.Record.yields h
  · exact read.payload
  · obtain rfl := Option.some.inj absent
    exact nofun

end ToolResult

namespace ToolDefinition

/-- Whether the objects in a definition's schemas are maps. -/
structure Canonical (d : ToolDefinition) : Prop where
  /-- In the schema of the arguments. -/
  input : d.inputSchema.canonical = d.inputSchema
  /-- In the schema of the result. -/
  output : ∀ v, d.outputSchema = some v → v.canonical = v

/-- What is read of a definition. -/
def stored (d : ToolDefinition) : ToolDefinition :=
  { d with outputSchema := Json.kept d.outputSchema }

/-- **A definition is read from its members.** -/
theorem takes_stored {d : ToolDefinition} (h : d.Canonical) : decoder.Takes d.toJson d.stored := by
  have members : d.toJson = .obj (present [("description", some (.str d.description)),
      ("input_schema", some d.inputSchema), ("name", some (.str d.name)),
      ("output_schema", d.outputSchema)]) := by
    simp [toJson]
  rw [members]
  refine Json.Record.decoder_takes _ (by decide) (by simp) ?_
  refine .payload ⟨_, _, rfl, .required (.required (.make _) rfl ?_) rfl ?_, ?_⟩ rfl h.output
  · exact Json.Decoder.takes_string d.name
  · exact Json.Decoder.takes_string d.description
  · exact .given (Json.Decoder.reads_json h.input)

/-- Nothing of a definition is lost unless the schema of its result is `null`. -/
theorem stored_eq_self {d : ToolDefinition} : d.stored = d ↔ d.outputSchema ≠ some .null := by
  rw [← Json.kept_eq_self]
  refine ⟨congrArg outputSchema, fun same => ?_⟩
  rw [stored, same]

/-- A definition that was read has no `null` for the schema of its result. -/
theorem payload_of_yields {d : ToolDefinition} (h : decoder.Yields d) :
    d.outputSchema ≠ some .null := by
  obtain ⟨_, _, rfl, ⟨_, _, rfl, ⟨_, _, rfl, ⟨_, _, rfl, rfl, -⟩, -⟩, -⟩, read | absent⟩ :=
    Json.Record.yields h
  · exact read.payload
  · obtain rfl := Option.some.inj absent
    exact nofun

end ToolDefinition

/-- The data of a handler's result is the output, encoded, if that satisfies the schema. -/
theorem TypedHandler.structuredContent_result {δ σ ι ο : Type} (h : TypedHandler δ σ ι ο)
    {output : ο} {v : Json} : (h.result output).structuredContent = some v ↔
      h.encode output = .ok v ∧ h.outputSchema.check v = .ok () := by
  rw [TypedHandler.result]
  split
  · next reason failed =>
    refine ⟨nofun, ?_⟩
    rintro ⟨encoded, -⟩
    cases failed.symm.trans encoded
  · next w encoded =>
    split
    · next e failed =>
      refine ⟨nofun, ?_⟩
      rintro ⟨same, checked⟩
      obtain rfl := Except.ok.inj (encoded.symm.trans same)
      cases failed.symm.trans checked
    · next checked =>
      constructor
      · intro same
        obtain rfl := Option.some.inj same
        exact ⟨encoded, checked⟩
      · rintro ⟨same, -⟩
        exact congrArg some (Except.ok.inj (encoded.symm.trans same))

/-! ## Round trips -/

/-- How a record is stored that has a value of any kind, which may be left out. -/
structure StoredButNull {α : Type} (write : α → Json) (d : Json.Decoder α) (payload : α → Option Json)
    (stored : α → α) (a : α) : Prop where
  /-- It is read from what it is written as, but for a `null` in place of the value. -/
  read : d.Reads (write a) (stored a)
  /-- So the same is read exactly if there is no such `null`. -/
  same : d.Reads (write a) a ↔ payload a ≠ some .null
  /-- A record that was read itself has none, so the same is read again. -/
  again : d.Yields a → d.Reads (write a) a

/-- A record is stored so if nothing else of it is lost, and no `null` was read in it. -/
theorem StoredButNull.of_takes {α : Type} {write : α → Json} {d : Json.Decoder α}
    {payload : α → Option Json} {stored : α → α} {a : α} (takes : d.Takes (write a) (stored a))
    (kept : stored a = a ↔ payload a ≠ some .null) (given : d.Yields a → payload a ≠ some .null) :
    StoredButNull write d payload stored a := by
  have back : stored a = a → d.Reads (write a) a := by
    intro same
    have reads := takes.toReads
    rwa [same] at reads
  constructor
  case read => exact takes.toReads
  case same =>
    refine ⟨fun reads => kept.mp ?_, fun some => back (kept.mpr some)⟩
    exact Except.ok.inj (takes.written.symm.trans reads.written)
  case again => exact fun yields => back (kept.mpr (given yields))

/-- **Results and definitions of tools can be stored, but for a `null`** in place of a value that
may be left out: that is read as no value.  So the result of a handler's output is read back unless
the output is encoded as `null` and the schema accepts that. -/
theorem toolRecords_roundTrip {r : ToolResult} {d : ToolDefinition} (hr : r.Canonical)
    (hd : d.Canonical) :
    StoredButNull ToolResult.toJson ToolResult.decoder ToolResult.structuredContent
        ToolResult.stored r ∧
      (∀ {δ σ ι ο : Type} (h : TypedHandler δ σ ι ο) (output : ο), h.result output = r →
        (ToolResult.decoder.Reads r.toJson r ↔
          ¬ (h.encode output = .ok .null ∧ h.outputSchema.check .null = .ok ()))) ∧
      StoredButNull ToolDefinition.toJson ToolDefinition.decoder ToolDefinition.outputSchema
        ToolDefinition.stored d := by
  have result : StoredButNull ToolResult.toJson ToolResult.decoder ToolResult.structuredContent
      ToolResult.stored r :=
    .of_takes (ToolResult.takes_stored hr) ToolResult.stored_eq_self ToolResult.payload_of_yields
  refine ⟨result, fun h output same => ?_, .of_takes (ToolDefinition.takes_stored hd)
    ToolDefinition.stored_eq_self ToolDefinition.payload_of_yields⟩
  rw [result.same, ← same, Ne, h.structuredContent_result]

/-- A result with parts of two kinds and data that has a `null` within. -/
def receipt : ToolResult where
  content := [.text "paid", .imageUrl "u" none]
  structuredContent := some (.obj [("note", .null), ("paid", .bool true)])
  isError := false

/-- A tool whose arguments are not restricted. -/
def payment : ToolDefinition := ⟨"pay", "", .null, some (.bool true)⟩

/-- Both are read back. -/
theorem toolRecords_roundTrip_receipt :
    (receipt.Canonical ∧ payment.Canonical) ∧
      ToolResult.decoder.Reads receipt.toJson receipt ∧
      ToolDefinition.decoder.Reads payment.toJson payment := by
  have hr : receipt.Canonical := by
    intro v same
    obtain rfl := Option.some.inj same
    rfl
  have hd : payment.Canonical := by
    refine ⟨rfl, fun v same => ?_⟩
    obtain rfl := Option.some.inj same
    rfl
  obtain ⟨result, -, definition⟩ := toolRecords_roundTrip hr hd
  exact ⟨⟨hr, hd⟩, result.same.mpr nofun, definition.same.mpr nofun⟩

/-- A result whose data is `null` comes back without data. -/
theorem structured_null_lost :
    ToolResult.decoder.ofJson (ToolResult.structured .null).toJson.canonical =
        .ok ⟨[.text "null"], none, false⟩ ∧
      ToolResult.decoder.ofJson (ToolResult.structured .null).toJson.canonical ≠
        .ok (.structured .null) := by
  have lost : ToolResult.decoder.ofJson (ToolResult.structured .null).toJson.canonical =
      .ok ⟨[.text "null"], none, false⟩ := rfl
  refine ⟨lost, fun same => ?_⟩
  cases congrArg ToolResult.structuredContent (Except.ok.inj (lost.symm.trans same))

end Colloquy
