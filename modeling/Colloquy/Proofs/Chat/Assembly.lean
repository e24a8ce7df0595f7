import Colloquy.Proofs.Chat.ByIndex

/-! # What streamed fragments amount to

Assembly takes fragments up one by one.  What comes of it is stated here field by field: texts are
run together, of other fields the last one counts, and calls and choices are kept by index.  The
main statement is `PartialResponse.ofChunks_eq`; together with `PartialMessage.find?_toolCalls` and
`PartialResponse.find?_choices` it says that only the fragments of one call, or of one choice, bear
on what becomes of it. -/

namespace Colloquy

/-- The last of some texts that is not empty. -/
def lastText (texts : List String) : String := (texts.filter (· ≠ "")).getLast?.getD ""

/-- One more text counts unless it is empty. -/
theorem lastText_concat (texts : List String) (t : String) :
    lastText (texts ++ [t]) = lastNonempty (lastText texts) t := by
  rw [lastText, lastNonempty, List.filter_append]
  by_cases empty : t = ""
  · rw [if_pos empty, empty]
    simp [lastText]
  · rw [if_neg empty]
    simp [empty]

/-- The last value that is present; one more counts if it is. -/
theorem getLast?_filterMap_concat {α β : Type} (f : α → Option β) (xs : List α) (x : α) :
    ((xs ++ [x]).filterMap f).getLast? = (f x).or (xs.filterMap f).getLast? := by
  rw [List.filterMap_append, List.getLast?_append]
  cases h : f x with
  | none => simp [h]
  | some b => simp [h]

/-- Texts that are run together, one more at the end. -/
theorem join_map_concat {α : Type} (f : α → String) (xs : List α) (x : α) :
    String.join ((xs ++ [x]).map f) = String.join (xs.map f) ++ f x := by
  simp

namespace PartialCall

/-- What the fragments of a call amount to. -/
def ofFragments (ds : List ToolCallDelta) : PartialCall where
  id := lastText (ds.map fun d => d.id.getD "")
  name := lastText (ds.map fun d => d.name.getD "")
  arguments := String.join (ds.map fun d => d.arguments.getD "")

/-- **`PartialCall.absorb` of fragments, one by one**, comes to `ofFragments`. -/
theorem foldl_absorb (ds : List ToolCallDelta) :
    ds.foldl (fun c d => absorb d c) empty = ofFragments ds := by
  induction ds using List.reverseRecOn with
  | nil => rfl
  | append_singleton ds d ih =>
    rw [List.foldl_append, ih, List.foldl_cons, List.foldl_nil, absorb, ofFragments, ofFragments,
      join_map_concat, List.map_append, List.map_singleton, lastText_concat, List.map_append,
      List.map_singleton, lastText_concat]

end PartialCall

namespace PartialMessage

/-- What the fragments of a message amount to. -/
def ofDeltas (ds : List MessageDelta) : PartialMessage where
  role := (ds.filterMap MessageDelta.role).getLast?
  content := String.join (ds.map fun d => d.content.getD "")
  refusal := String.join (ds.map fun d => d.refusal.getD "")
  toolCalls :=
    ByIndex.gather ToolCallDelta.index .empty PartialCall.absorb (ds.flatMap MessageDelta.toolCalls)

/-- One more fragment is merged into what the ones before it amount to. -/
theorem ofDeltas_concat (ds : List MessageDelta) (d : MessageDelta) :
    ofDeltas (ds ++ [d]) = absorb d (ofDeltas ds) := by
  -- Calls are gathered over all fragments at once, as if the calls of each came one by one.
  have calls : ByIndex.gather ToolCallDelta.index .empty PartialCall.absorb
      ((ds ++ [d]).flatMap MessageDelta.toolCalls) =
        d.toolCalls.foldl absorbCall (ofDeltas ds).toolCalls := by
    rw [List.flatMap_append, List.flatMap_singleton, ← ByIndex.foldl_gather]
    rfl
  rw [ofDeltas, absorb, calls, getLast?_filterMap_concat, join_map_concat, join_map_concat]
  rfl

/-- What `absorb` makes of a call depends on its own fragments only. -/
theorem find?_toolCalls (index : UInt32) (ds : List MessageDelta) :
    ByIndex.find? index (ofDeltas ds).toolCalls =
      if (ds.flatMap MessageDelta.toolCalls).filter (fun d => d.index = index) = [] then none
      else some (.ofFragments
        ((ds.flatMap MessageDelta.toolCalls).filter fun d => d.index = index)) := by
  rw [ofDeltas, ByIndex.find?_gather, PartialCall.foldl_absorb]

end PartialMessage

namespace PartialChoice

/-- What the shares of a choice amount to. -/
def ofShares (cs : List StreamChoice) : PartialChoice where
  message := .ofDeltas (cs.map StreamChoice.delta)
  finishReason := (cs.filterMap StreamChoice.finishReason).getLast?

/-- **`PartialChoice.absorb` of shares, one by one**, comes to `ofShares`. -/
theorem foldl_absorb (cs : List StreamChoice) :
    cs.foldl (fun p c => absorb c p) empty = ofShares cs := by
  induction cs using List.reverseRecOn with
  | nil => rfl
  | append_singleton cs c ih =>
    rw [List.foldl_append, ih, List.foldl_cons, List.foldl_nil, absorb, ofShares, ofShares,
      getLast?_filterMap_concat, List.map_append, List.map_singleton,
      PartialMessage.ofDeltas_concat]

end PartialChoice

namespace PartialResponse

/-- **`PartialResponse.ofChunks` comes to this**, field by field. -/
theorem ofChunks_eq (chunks : List StreamChunk) :
    ofChunks chunks =
      { id := lastText (chunks.map StreamChunk.id)
        model := lastText (chunks.map StreamChunk.model)
        choices :=
          ByIndex.gather StreamChoice.index .empty PartialChoice.absorb
            (chunks.flatMap StreamChunk.choices)
        usage := (chunks.filterMap StreamChunk.usage).getLast? } := by
  induction chunks using List.reverseRecOn with
  | nil => rfl
  | append_singleton chunks chunk ih =>
    have step : ofChunks (chunks ++ [chunk]) = absorb (ofChunks chunks) chunk := by
      rw [ofChunks, List.foldl_append]
      rfl
    have shares : ByIndex.gather StreamChoice.index .empty PartialChoice.absorb
        ((chunks ++ [chunk]).flatMap StreamChunk.choices) =
          chunk.choices.foldl absorbChoice (ByIndex.gather StreamChoice.index .empty
            PartialChoice.absorb (chunks.flatMap StreamChunk.choices)) := by
      rw [List.flatMap_append, List.flatMap_singleton, ← ByIndex.foldl_gather]
      rfl
    rw [step, ih, shares, getLast?_filterMap_concat, List.map_append, List.map_singleton,
      lastText_concat, List.map_append, List.map_singleton, lastText_concat, absorb]

/-- The choices of `PartialResponse.ofChunks` are ascending. -/
theorem ascending_choices (chunks : List StreamChunk) :
    ByIndex.Ascending (ofChunks chunks).choices := by
  rw [ofChunks_eq]
  exact ByIndex.ascending_gather ..

/-- What `ofChunks` makes of a choice depends on its own shares only. -/
theorem find?_choices (index : UInt32) (chunks : List StreamChunk) :
    ByIndex.find? index (ofChunks chunks).choices =
      if (chunks.flatMap StreamChunk.choices).filter (fun c => c.index = index) = [] then none
      else some (.ofShares
        ((chunks.flatMap StreamChunk.choices).filter fun c => c.index = index)) := by
  rw [ofChunks_eq, ByIndex.find?_gather, PartialChoice.foldl_absorb]

end PartialResponse

end Colloquy
