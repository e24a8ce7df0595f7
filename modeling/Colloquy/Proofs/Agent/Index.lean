import Colloquy.Agent.Basic
import Colloquy.Proofs.Except
import Mathlib.Data.List.Induction
import Mathlib.Data.List.Nodup

/-! # The index of tools

When the tools of an agent can be indexed by name, what is reported where they cannot, and what the
index finds.  `Agent.toolIndex_eq_ok` and `Agent.toolIndex_eq_error` say what indexing comes to, and
`Agent.tool?_eq_some` that looking a name up finds the one tool that has it. -/

namespace Colloquy.Agent

/-- Whether names can be those of an agent's tools: none is reserved, and none occurs twice. -/
def WellNamed (names : List String) : Prop :=
  ResponseFormat.outputToolName ∉ names ∧ names.Nodup

/-- What a name offends against after names that were met before it. -/
inductive Offence (met : List String) (name : String) : RunError → Prop where
  /-- It is reserved. -/
  | reserved (reserved : name = ResponseFormat.outputToolName) :
    Offence met name (.reservedToolName name)
  /-- It was met before. -/
  | duplicate (free : name ≠ ResponseFormat.outputToolName) (again : name ∈ met) :
    Offence met name (.duplicateTool name)

/-- The places of names, the last one first. -/
def places (names : List String) : List (String × Nat) := names.zipIdx.reverse

/-! ## Names -/

/-- One more name keeps names well if it is not reserved and not among them. -/
theorem wellNamed_concat {names : List String} {name : String} :
    WellNamed (names ++ [name]) ↔
      WellNamed names ∧ name ≠ ResponseFormat.outputToolName ∧ name ∉ names := by
  have distinct : (names ++ [name]).Nodup ↔ name ∉ names ∧ names.Nodup := by
    rw [List.nodup_append_comm, List.singleton_append, List.nodup_cons]
  rw [WellNamed, WellNamed, List.mem_append, List.mem_singleton, not_or, distinct]
  constructor
  · rintro ⟨⟨free, other⟩, new, distinct⟩
    exact ⟨⟨free, distinct⟩, Ne.symm other, new⟩
  · rintro ⟨⟨free, distinct⟩, other, new⟩
    exact ⟨⟨free, Ne.symm other⟩, new, distinct⟩

/-- **Names are well, or one of them is the first to offend.** -/
theorem wellNamed_or_offence (names : List String) :
    WellNamed names ∨ ∃ met name after e,
      names = met ++ name :: after ∧ WellNamed met ∧ Offence met name e := by
  -- The induction is from the end of the list, so that it is the first offence that is found.
  induction names using List.reverseRecOn with
  | nil => exact .inl ⟨List.not_mem_nil, List.nodup_nil⟩
  | append_singleton names name ih =>
    rcases ih with well | ⟨met, first, after, e, rfl, well, offence⟩
    · by_cases reserved : name = ResponseFormat.outputToolName
      · exact .inr ⟨names, name, [], _, rfl, well, .reserved reserved⟩
      · by_cases again : name ∈ names
        · exact .inr ⟨names, name, [], _, rfl, well, .duplicate reserved again⟩
        · exact .inl (wellNamed_concat.mpr ⟨well, reserved, again⟩)
    · exact .inr ⟨met, first, after ++ [name], e, by simp, well, offence⟩

/-! ## Places -/

/-- One more name comes first, at the place after the others. -/
theorem places_concat (names : List String) (name : String) :
    places (names ++ [name]) = (name, names.length) :: places names := by
  simp only [places, List.zipIdx_append, List.zipIdx_singleton, List.reverse_append,
    List.reverse_singleton, List.singleton_append, Nat.zero_add]

/-- **A name is found at a place of its own**, the last one if there are several. -/
theorem lookup_places_isSome {names : List String} {name : String} :
    ((places names).lookup name).isSome ↔ name ∈ names := by
  induction names using List.reverseRecOn with
  | nil => simp [places]
  | append_singleton names last ih =>
    rw [places_concat, List.lookup_cons, List.mem_append, List.mem_singleton]
    by_cases same : name = last
    · simp [same]
    · have other : (name == last) = false := beq_false_of_ne same
      simp only [other, same, or_false, ih]

/-- Names that occur once are found where they stand. -/
theorem lookup_places {names : List String} (distinct : names.Nodup) {name : String} {i : Nat} :
    (places names).lookup name = some i ↔ names[i]? = some name := by
  induction names using List.reverseRecOn with
  | nil => simp [places]
  | append_singleton names last ih =>
    rw [List.nodup_append_comm, List.singleton_append, List.nodup_cons] at distinct
    obtain ⟨new, distinct⟩ := distinct
    rw [places_concat, List.lookup_cons, List.getElem?_append]
    by_cases same : name = last
    · subst same
      simp only [BEq.rfl, Option.some.injEq]
      split
      · next early =>
        -- Earlier places have other names.
        exact iff_of_false (Nat.ne_of_gt early) fun here => new (List.mem_of_getElem? here)
      · next late =>
        rw [List.getElem?_singleton]
        simp; omega
    · have other : (name == last) = false := beq_false_of_ne same
      simp only [other, ih distinct]
      split
      · exact Iff.rfl
      · next late =>
        rw [List.getElem?_singleton, List.getElem?_eq_none (Nat.not_lt.mp late)]
        simp [Ne.symm same]

/-! ## Indexing -/

/-- **`indexNames` passes over names that are well**, and keeps their places. -/
theorem indexNames_append {met names : List String} (well : WellNamed (met ++ names))
    (rest : List String) :
    indexNames (places met) met.length (names ++ rest) =
      indexNames (places (met ++ names)) (met ++ names).length rest := by
  induction names generalizing met with
  | nil => rw [List.append_nil, List.nil_append]
  | cons name names ih =>
    rw [List.append_cons] at well ⊢
    have here : WellNamed (met ++ [name]) := by
      obtain ⟨free, distinct⟩ := well
      exact ⟨fun mem => free (List.mem_append_left _ mem),
        distinct.sublist (List.sublist_append_left _ _)⟩
    obtain ⟨-, other, new⟩ := wellNamed_concat.mp here
    rw [← lookup_places_isSome] at new
    have grown : (met ++ [name]).length = met.length + 1 := List.length_append
    rw [List.cons_append, indexNames, if_neg other, if_neg new, ← places_concat, ← grown, ih well]

/-- `indexNames` fails at a name that offends, for its offence. -/
theorem indexNames_of_offence {met : List String} {name : String} {e : RunError}
    (offence : Offence met name e) (after : List String) :
    indexNames (places met) met.length (name :: after) = .error e := by
  cases offence with
  | reserved reserved => rw [indexNames, if_pos reserved]
  | duplicate free again =>
    rw [← lookup_places_isSome] at again
    rw [indexNames, if_neg free, if_pos again]

variable {δ σ ο : Type} {a : Agent δ σ ο}

/-- Names that are well are indexed by their places. -/
theorem toolIndex_of_wellNamed (well : WellNamed (a.tools.map AgentTool.name)) :
    a.toolIndex = .ok (places (a.tools.map AgentTool.name)) := by
  have passed := @indexNames_append [] _ well []
  rwa [List.append_nil, List.nil_append] at passed

/-- The first name that offends is reported. -/
theorem toolIndex_of_offence {met after : List String} {name : String} {e : RunError}
    (split : a.tools.map AgentTool.name = met ++ name :: after) (well : WellNamed met)
    (offence : Offence met name e) : a.toolIndex = .error e := by
  have passed := @indexNames_append [] _ well (name :: after)
  rw [List.nil_append, indexNames_of_offence offence] at passed
  rw [toolIndex, split]
  exact passed

/-- **`toolIndex` succeeds if the names of the tools are well**, with the places of these. -/
theorem toolIndex_eq_ok {index : List (String × Nat)} :
    a.toolIndex = .ok index ↔
      WellNamed (a.tools.map AgentTool.name) ∧ index = places (a.tools.map AgentTool.name) := by
  constructor
  · intro indexed
    rcases wellNamed_or_offence (a.tools.map AgentTool.name) with
      well | ⟨met, name, after, e, split, well, offence⟩
    · rw [toolIndex_of_wellNamed well] at indexed
      exact ⟨well, (Except.ok.inj indexed).symm⟩
    · rw [toolIndex_of_offence split well offence] at indexed
      cases indexed
  · rintro ⟨well, rfl⟩
    exact toolIndex_of_wellNamed well

/-- **`tool?` finds the tool that has the name**, at its place, in an agent whose tools can be
indexed. -/
theorem tool?_eq_some {name : String} {t : AgentTool δ σ} :
    a.tool? name = some t ↔ WellNamed (a.tools.map AgentTool.name) ∧
      ∃ i : Nat, a.tools[i]? = some t ∧ t.name = name := by
  rcases wellNamed_or_offence (a.tools.map AgentTool.name) with
    well | ⟨met, first, after, e, split, well, offence⟩
  · have found : a.tool? name =
        ((places (a.tools.map AgentTool.name)).lookup name).bind (a.tools[·]?) := by
      rw [tool?, toolIndex_of_wellNamed well]
      rfl
    rw [found, Option.bind_eq_some_iff, and_iff_right well]
    refine exists_congr fun i => ?_
    rw [lookup_places well.2, List.getElem?_map, Option.map_eq_some_iff]
    constructor
    · rintro ⟨⟨t', place, named⟩, place'⟩
      obtain rfl := Option.some.inj (place.symm.trans place')
      exact ⟨place, named⟩
    · rintro ⟨place, named⟩
      exact ⟨⟨t, place, named⟩, place⟩
  · have refused := toolIndex_of_offence split well offence
    have nothing : a.tool? name = none := by
      rw [tool?, refused]
      rfl
    rw [nothing]
    refine iff_of_false nofun ?_
    rintro ⟨well, -⟩
    rw [toolIndex_of_wellNamed well] at refused
    cases refused

/-- `tool?` finds nothing if no tool has the name. -/
theorem tool?_eq_none (well : WellNamed (a.tools.map AgentTool.name)) {name : String} :
    a.tool? name = none ↔ name ∉ a.tools.map AgentTool.name := by
  rw [Option.eq_none_iff_forall_ne_some, List.mem_map]
  constructor
  · rintro missing ⟨t, mem, named⟩
    obtain ⟨i, place⟩ := List.mem_iff_getElem?.mp mem
    exact missing t (tool?_eq_some.mpr ⟨well, i, place, named⟩)
  · intro absent t found
    obtain ⟨-, i, place, named⟩ := tool?_eq_some.mp found
    exact absent ⟨t, List.mem_of_getElem? place, named⟩

/-- `Agent.validate` passes if the settings do and the names of the tools are well. -/
theorem validate_eq_ok :
    a.validate = .ok () ↔
      a.config.validate = .ok () ∧ WellNamed (a.tools.map AgentTool.name) := by
  rw [validate, Except.bind_eq_ok]
  constructor
  · rintro ⟨⟨⟩, usable, passed⟩
    obtain ⟨index, indexed, -⟩ := Except.map_eq_ok.mp (Except.mapError_eq_ok.mp passed)
    exact ⟨usable, (toolIndex_eq_ok.mp indexed).1⟩
  · rintro ⟨usable, well⟩
    refine ⟨(), usable, ?_⟩
    rw [toolIndex_of_wellNamed well]
    rfl

end Colloquy.Agent
