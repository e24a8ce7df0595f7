import Colloquy.Output.Extract
import Mathlib.Data.List.Basic
import Mathlib.Data.List.Induction

/-! # The calls of a message by name

The names of the calls of other tools than the output tool, each once, in order of first appearance
(`appearances_otherTools`), and what follows from there being none. -/

namespace Colloquy.ResponseFormat

variable {names : List String} {name : String} {calls : List ToolCall}

/-- Whether names are those of a list, each once, in order of first appearance. -/
structure Appearances (names firsts : List String) : Prop where
  /-- The names are those of the list. -/
  mem_iff : ∀ name, name ∈ firsts ↔ name ∈ names
  /-- A name that is there before another appears before it. -/
  inOrder : firsts.Pairwise fun x y => names.idxOf x < names.idxOf y

/-- No name appears first twice. -/
theorem Appearances.nodup {firsts : List String} (h : Appearances names firsts) :
    firsts.Nodup := by
  refine h.inOrder.imp ?_
  rintro x _ lt rfl
  exact Nat.lt_irrefl _ lt

/-- **The order of first appearance is one order only.** -/
theorem Appearances.unique {firsts others : List String} (h : Appearances names firsts)
    (h' : Appearances names others) : firsts = others := by
  have same : firsts.Perm others := (List.perm_ext_iff_of_nodup h.nodup h'.nodup).mpr fun name =>
    (h.mem_iff name).trans (h'.mem_iff name).symm
  exact same.eq_of_pairwise (fun x y _ _ lt gt => absurd lt (Nat.lt_asymm gt)) h.inOrder h'.inOrder

/-- One more name is put at the end unless it is there. -/
theorem distinct_concat (names : List String) (name : String) :
    distinct (names ++ [name]) =
      if (distinct names).contains name then distinct names else distinct names ++ [name] := by
  rw [distinct, List.foldl_append]
  rfl

/-- **`distinct names` are the names in order of first appearance.** -/
theorem appearances_distinct (names : List String) : Appearances names (distinct names) := by
  induction names using List.reverseRecOn with
  | nil => exact { mem_iff := fun _ => Iff.rfl, inOrder := .nil }
  | append_singleton names name ih =>
    -- Where a name appears first does not change as names follow.
    have same : ∀ x ∈ distinct names, (names ++ [name]).idxOf x = names.idxOf x := fun x hx =>
      List.idxOf_append_of_mem ((ih.mem_iff x).mp hx)
    have inOrder : (distinct names).Pairwise fun x y =>
        (names ++ [name]).idxOf x < (names ++ [name]).idxOf y :=
      ih.inOrder.imp_of_mem fun {x y} hx hy lt => by rwa [same x hx, same y hy]
    rw [distinct_concat]
    split
    · next known =>
      refine { mem_iff := fun x => ?_, inOrder := inOrder }
      have known := (ih.mem_iff name).mp (List.contains_iff_mem.mp known)
      rw [ih.mem_iff, List.mem_append, List.mem_singleton]
      exact ⟨.inl, fun h => h.elim id fun same => same ▸ known⟩
    · next new =>
      refine { mem_iff := fun x => by rw [List.mem_append, List.mem_append, ih.mem_iff],
               inOrder := List.pairwise_append.mpr ⟨inOrder, List.pairwise_singleton _ _, ?_⟩ }
      intro x hx y hy
      obtain rfl := List.mem_singleton.mp hy
      have new : y ∉ names := fun mem => new (List.contains_iff_mem.mpr ((ih.mem_iff y).mpr mem))
      rw [same x hx, List.idxOf_append_of_notMem new]
      exact Nat.lt_add_right _ (List.idxOf_lt_length_of_mem ((ih.mem_iff x).mp hx))

/-- The names of the calls of other tools than the output tool. -/
def otherNames (calls : List ToolCall) : List String :=
  (calls.map ToolCall.name).filter fun name => name ≠ outputToolName

/-- **`otherTools` are the names of the calls of other tools**, in order of first appearance. -/
theorem appearances_otherTools (calls : List ToolCall) :
    Appearances (otherNames calls) (otherTools calls) := by
  have names : otherNames calls = (calls.filter fun c => !isOutputCall c).map ToolCall.name := by
    rw [otherNames, List.filter_map]
    congr 2
    funext c
    simp [isOutputCall]
  rw [names]
  exact appearances_distinct _

/-- The output tool is no other tool. -/
theorem Appearances.outputToolName_notMem {others : List String}
    (h : Appearances (otherNames calls) others) : outputToolName ∉ others := by
  rw [h.mem_iff, otherNames, List.mem_filter]
  simp

/-- Without other tools, all calls are of the output tool. -/
theorem isOutputCall_of_mem (none : otherTools calls = []) {c : ToolCall} (mem : c ∈ calls) :
    isOutputCall c = true := by
  by_contra other
  have listed : c.name ∈ otherTools calls := (appearances_otherTools calls).mem_iff _ |>.mpr <| by
    rw [otherNames, List.mem_filter]
    exact ⟨List.mem_map_of_mem mem, by simpa [isOutputCall] using other⟩
  rw [none] at listed
  cases listed

/-- A call of the output tool, and none of another tool, stands alone if it is the only one that is
counted. -/
theorem eq_singleton (one : (calls.filter isOutputCall).length = 1) (none : otherTools calls = []) :
    ∃ call, calls = [call] ∧ isOutputCall call = true := by
  have all : ∀ c ∈ calls, isOutputCall c = true := fun c => isOutputCall_of_mem none
  rw [List.filter_eq_self.mpr all] at one
  obtain ⟨call, rfl⟩ := List.length_eq_one_iff.mp one
  exact ⟨call, rfl, all call List.mem_cons_self⟩

end Colloquy.ResponseFormat
