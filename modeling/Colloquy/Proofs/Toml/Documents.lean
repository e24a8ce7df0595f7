import Colloquy.Proofs.Toml.Lines
import Mathlib.Data.List.Forall2

/-! # TOML documents read back

A printed document is a list of parts, each of which is a header with the values of its own table.
The parts of a table within another one are its own parts with one more step in front of their paths,
for the printer (`Toml.Arranged.reads_within`) as for the reader (`Toml.fillParts_within`), so both
go through the tables in the same way.  If every table has its values before its tables, and all of
them under different names, the document reads back as it is (`Toml.parse_print`). -/

namespace Colloquy.Toml

/-! ## Tables under construction -/

namespace Members

variable {name : String} {t : Members}

/-- A new name is added at the end. -/
theorem update_fresh (fresh : name ∉ t.map Prod.fst) (f : Option Node → Option Node) :
    t.update name f = (f none).map fun n => t ++ [(name, n)] := by
  induction t with
  | nil => rfl
  | cons entry t ih =>
    obtain ⟨key, n⟩ := entry
    simp only [List.map_cons, List.mem_cons, not_or] at fresh
    rw [update, if_neg (Ne.symm fresh.1), ih fresh.2, Option.map_map]
    rfl

/-- The last name is changed in its place. -/
theorem update_last (fresh : name ∉ t.map Prod.fst) (f : Option Node → Option Node) (n : Node) :
    update name f (t ++ [(name, n)]) = (f (some n)).map fun n => t ++ [(name, n)] := by
  induction t with
  | nil => simp [update]
  | cons entry t ih =>
    obtain ⟨key, m⟩ := entry
    simp only [List.map_cons, List.mem_cons, not_or] at fresh
    rw [List.cons_append, update, if_neg (Ne.symm fresh.1), ih fresh.2, Option.map_map]
    rfl

end Members

/-- The lines of values. -/
def assignments (own : List (String × Json)) : List Line :=
  own.map fun f => .assignment [] f.1 f.2

/-- Values as members of a table. -/
def values (own : List (String × Json)) : Members := own.map fun f => (f.1, .value f.2)

/-- **Values under new names are added to a table.** -/
theorem assignAll_assignments {own : List (String × Json)} {t : Members}
    (distinct : (t.map Prod.fst ++ own.map Prod.fst).Nodup) :
    assignAll (assignments own) t = some (t ++ values own) := by
  induction own generalizing t with
  | nil => simp [assignments, values, assignAll]
  | cons f own ih =>
    have fresh : f.1 ∉ t.map Prod.fst := by
      intro known
      exact (List.nodup_append.mp distinct).2.2 _ known _ (by simp) rfl
    have assign : t.assign f.2 [] f.1 = some (t ++ [(f.1, .value f.2)]) := by
      rw [Members.assign, Members.update_fresh fresh]
      rfl
    have others := ih (t := t ++ [(f.1, .value f.2)]) (by simpa using distinct)
    rw [assignments, List.map_cons, assignAll, assign, Option.bind_some]
    rw [assignments] at others
    rw [others]
    simp [values]

/-- Values under different names make a table. -/
theorem assignAll_own {own : List (String × Json)} (distinct : (own.map Prod.fst).Nodup) :
    assignAll (assignments own) [] = some (values own) :=
  assignAll_assignments (t := []) distinct

/-- The values of a table end where the next header stands. -/
theorem assignAll_append (own : List (String × Json)) {rest : List Line}
    (ends : ∀ t, assignAll rest t = some t) (t : Members) :
    assignAll (assignments own ++ rest) t = assignAll (assignments own) t := by
  induction own generalizing t with
  | nil => exact ends t
  | cons f own ih =>
    rw [assignments, List.map_cons, List.cons_append, assignAll, assignAll]
    congr 1
    funext t
    exact ih t

/-- Headers are looked for after the values of a table. -/
theorem fillAll_append (own : List (String × Json)) (rest : List Line) (t : Members) :
    fillAll (assignments own ++ rest) t = fillAll rest t := by
  induction own with
  | nil => rfl
  | cons f own ih =>
    rw [assignments, List.map_cons, List.cons_append, fillAll]
    exact ih

/-! ## Parts of a document -/

/-- A header with the values of its table. -/
structure Part where
  /-- The names that lead to the table. -/
  path : List String
  /-- The values of the table's own. -/
  own : List (String × Json)

namespace Part

/-- The part, as that of a table within another one. -/
def within (step : String) (p : Part) : Part := { p with path := step :: p.path }

/-- The lines of a part. -/
def lines (p : Part) : List Line :=
  .header false p.path.dropLast (p.path.getLast?.getD "") :: assignments p.own

/-- Fill the table of a part. -/
def fill (p : Part) (t : Members) : Option Members :=
  t.fill false (assignAll (assignments p.own)) p.path.dropLast (p.path.getLast?.getD "")

end Part

/-- Fill the tables of some parts. -/
def fillParts : List Part → Members → Option Members
  | [], t => some t
  | p :: ps, t => (p.fill t).bind (fillParts ps)

/-- Parts begin with headers. -/
theorem assignAll_lines (ps : List Part) (t : Members) :
    assignAll (ps.flatMap Part.lines) t = some t := by
  cases ps <;> rfl

/-- **The lines of parts fill the tables of the parts.** -/
theorem fillAll_lines (ps : List Part) (t : Members) :
    fillAll (ps.flatMap Part.lines) t = fillParts ps t := by
  induction ps generalizing t with
  | nil => rfl
  | cons p ps ih =>
    have body : assignAll (assignments p.own ++ ps.flatMap Part.lines) = assignAll (assignments p.own) :=
      funext (assignAll_append p.own (assignAll_lines ps))
    rw [List.flatMap_cons, Part.lines, List.cons_append, fillAll, body, fillParts]
    congr 1
    funext t
    rw [fillAll_append, ih]

/-- Parts are filled one after the other. -/
theorem fillParts_append (ps qs : List Part) (t : Members) :
    fillParts (ps ++ qs) t = (fillParts ps t).bind (fillParts qs) := by
  induction ps generalizing t with
  | nil => rfl
  | cons p ps ih =>
    rw [List.cons_append, fillParts, fillParts, Option.bind_assoc]
    congr 1
    funext t
    exact ih t

section Within

variable {step : String} {t : Members}

/-- A part within a table is filled in that table. -/
theorem fill_within (fresh : step ∉ t.map Prod.fst) {p : Part} (inner : p.path ≠ [])
    (origin : Origin) (u : Members) :
    (p.within step).fill (t ++ [(step, .table origin u)]) =
      (p.fill u).map fun u => t ++ [(step, .table origin u)] := by
  obtain ⟨path, own⟩ := p
  obtain ⟨next, path, rfl⟩ := List.exists_cons_of_ne_nil inner
  rw [Part.fill, Part.within, List.dropLast_cons_cons, List.getLast?_cons_cons, Members.fill,
    Members.update_last fresh, Option.map_map]
  rfl

/-- A part within a table that is missing makes the table. -/
theorem fill_within_fresh (fresh : step ∉ t.map Prod.fst) {p : Part} (inner : p.path ≠ []) :
    (p.within step).fill t = (p.fill []).map fun u => t ++ [(step, .table .parent u)] := by
  obtain ⟨path, own⟩ := p
  obtain ⟨next, path, rfl⟩ := List.exists_cons_of_ne_nil inner
  rw [Part.fill, Part.within, List.dropLast_cons_cons, List.getLast?_cons_cons, Members.fill,
    Members.update_fresh fresh, Option.map_map]
  rfl

/-- **Parts within a table are filled in that table.** -/
theorem fillParts_within (fresh : step ∉ t.map Prod.fst) {ps : List Part}
    (inner : ∀ p ∈ ps, p.path ≠ []) (origin : Origin) (u : Members) :
    fillParts (ps.map (Part.within step)) (t ++ [(step, .table origin u)]) =
      (fillParts ps u).map fun u => t ++ [(step, .table origin u)] := by
  induction ps generalizing u with
  | nil => rfl
  | cons p ps ih =>
    obtain ⟨first, others⟩ := List.forall_mem_cons.mp inner
    rw [List.map_cons, fillParts, fillParts, fill_within fresh first, Option.bind_map, Option.map_bind]
    congr 1
    funext u
    exact ih others u

/-- Parts within a table that is missing make the table. -/
theorem fillParts_within_fresh (fresh : step ∉ t.map Prod.fst) {ps : List Part} (some' : ps ≠ [])
    (inner : ∀ p ∈ ps, p.path ≠ []) :
    fillParts (ps.map (Part.within step)) t =
      (fillParts ps []).map fun u => t ++ [(step, .table .parent u)] := by
  obtain ⟨p, ps, rfl⟩ := List.exists_cons_of_ne_nil some'
  obtain ⟨first, others⟩ := List.forall_mem_cons.mp inner
  rw [List.map_cons, fillParts, fillParts, fill_within_fresh fresh first, Option.bind_map,
    Option.map_bind]
  congr 1
  funext u
  exact fillParts_within fresh others .parent u

end Within

/-! ## Arranged tables -/

/-- Tables, as members of the table that they are within. -/
def asMembers (tables : List (String × List (String × Json))) : List (String × Json) :=
  tables.map fun t => (t.1, .obj t.2)

/-- Whether every table has its values before its tables, and all under different names.  Tables
nest less deeply than the bound says. -/
inductive Arranged : Nat → List (String × Json) → Prop where
  /-- A table has values, then tables. -/
  | intro {depth : Nat} {own : List (String × Json)} {tables : List (String × List (String × Json))}
    (distinct : (own.map Prod.fst ++ tables.map Prod.fst).Nodup) (leaves : ∀ f ∈ own, Leaf f.2)
    (arranged : ∀ t ∈ tables, Arranged depth t.2) :
    Arranged (depth + 1) (own ++ asMembers tables)

/-- The values of a table's own. -/
def ownOf : List (String × Json) → List (String × Json)
  | [] => []
  | (_, .null) :: rest => ownOf rest
  | (_, .obj _) :: rest => ownOf rest
  | f :: rest => f :: ownOf rest

mutual

/-- The parts of a document that are about a table and the tables within. -/
def parts : Json → List Part
  | .obj fields =>
    (if (ownOf fields).isEmpty && !fields.isEmpty then [] else [⟨[], ownOf fields⟩]) ++
      partsWithin fields
  | _ => []

/-- The parts of a document that are about the tables among some members. -/
def partsWithin : List (String × Json) → List Part
  | [] => []
  | (name, v) :: rest => (parts v).map (Part.within name) ++ partsWithin rest

end

section Leaves

variable {own : List (String × Json)} (leaves : ∀ f ∈ own, Leaf f.2)
  (tables : List (String × List (String × Json)))

include leaves

/-- The values of a table's own are found in front of its tables. -/
theorem ownOf_append : ownOf (own ++ asMembers tables) = own := by
  induction own with
  | nil =>
    induction tables with
    | nil => rfl
    | cons t tables ih => exact ih
  | cons f own ih =>
    obtain ⟨leaf, others⟩ := List.forall_mem_cons.mp leaves
    obtain ⟨name, v⟩ := f
    rw [List.cons_append, ownOf, ih others]
    · exact fun _ null => leaf.something (Prod.ext_iff.mp null).2
    · exact fun _ fields table => leaf.single fields (Prod.ext_iff.mp table).2

/-- Values have no parts. -/
theorem partsWithin_append (rest : List (String × Json)) :
    partsWithin (own ++ rest) = partsWithin rest := by
  induction own with
  | nil => rfl
  | cons f own ih =>
    obtain ⟨leaf, others⟩ := List.forall_mem_cons.mp leaves
    obtain ⟨name, v⟩ := f
    have nothing : parts v = [] := by
      cases v with
      | obj fields => exact absurd rfl (leaf.single fields)
      | _ => rfl
    rw [List.cons_append, partsWithin, nothing, ih others]
    rfl

/-- Values have no sections. -/
theorem sectionsWithin_append (path : List String) (rest : List (String × Json)) :
    sectionsWithin path (own ++ rest) = sectionsWithin path rest := by
  induction own with
  | nil => rfl
  | cons f own ih =>
    obtain ⟨leaf, others⟩ := List.forall_mem_cons.mp leaves
    obtain ⟨name, v⟩ := f
    have nothing : ∀ path, sections path v = [] := by
      intro path
      cases v with
      | obj fields => exact absurd rfl (leaf.single fields)
      | _ => rfl
    rw [List.cons_append, sectionsWithin, nothing, ih others]
    rfl

end Leaves

/-- A table's own values are written in lines. -/
theorem printOwn_eq (fields : List (String × Json)) :
    printOwn fields = (ownOf fields).flatMap fun f => printAssignment f.1 f.2 := by
  induction fields with
  | nil => rfl
  | cons f fields ih =>
    obtain ⟨name, v⟩ := f
    cases v <;> simp [printOwn, ownOf, ih, printAssignment]

/-- The values of a table's own are read back as its lines. -/
theorem reads_own {own : List (String × Json)} (leaves : ∀ f ∈ own, Leaf f.2) :
    Reads (own.flatMap fun f => printAssignment f.1 f.2) (assignments own) := by
  induction own with
  | nil => exact reads_nil
  | cons f own ih =>
    obtain ⟨leaf, others⟩ := List.forall_mem_cons.mp leaves
    exact (reads_assignment f.1 leaf).append (ih others)

/-! ## From the print to the parts -/

/-- A part, as that of a table at a path. -/
def Part.under (path : List String) (p : Part) : Part := { p with path := path ++ p.path }

/-- A step in front of a part belongs to the end of the path that leads there. -/
theorem Part.under_within (path : List String) (step : String) (p : Part) :
    (p.within step).under path = p.under (path ++ [step]) := by
  simp [within, under]

/-- The section of a table is read back as its part. -/
theorem reads_section {path : List String} (nonempty : path ≠ []) (shallow : path.length < depthLimit)
    {own : List (String × Json)} (leaves : ∀ f ∈ own, Leaf f.2)
    (tables : List (String × List (String × Json))) :
    List.Forall₂ Reads (printSection path (own ++ asMembers tables))
      ((if own.isEmpty && !(own ++ asMembers tables).isEmpty then [] else [Part.mk [] own]).map
        fun p => (p.under path).lines) := by
  have none' : (own.flatMap fun f => printAssignment f.1 f.2).isEmpty = own.isEmpty := by
    cases own with
    | nil => rfl
    | cons f own => simp [printAssignment]
  rw [printSection, printOwn_eq, ownOf_append leaves, none', if_neg (by simpa using nonempty)]
  by_cases omitted : (own.isEmpty && !(own ++ asMembers tables).isEmpty) = true
  · rw [if_pos omitted, if_pos omitted]
    exact .nil
  · rw [if_neg omitted, if_neg omitted]
    refine .cons ?_ .nil
    have header := reads_header nonempty shallow
    simpa [Part.under, Part.lines, List.getLast?_eq_some_getLast nonempty] using
      header.append (reads_own leaves)

/-- The sections of tables are those of the single tables. -/
theorem reads_within {path : List String} {tables : List (String × List (String × Json))}
    (each : ∀ t ∈ tables, List.Forall₂ Reads (sections (path ++ [t.1]) (.obj t.2))
      ((parts (.obj t.2)).map fun p => (p.under (path ++ [t.1])).lines)) :
    List.Forall₂ Reads (sectionsWithin path (asMembers tables))
      ((partsWithin (asMembers tables)).map fun p => (p.under path).lines) := by
  induction tables with
  | nil => exact .nil
  | cons t tables ih =>
    obtain ⟨first, others⟩ := List.forall_mem_cons.mp each
    rw [asMembers, List.map_cons, sectionsWithin, partsWithin, List.map_append, List.map_map]
    refine List.rel_append ?_ (ih others)
    simpa [Function.comp_def, Part.under_within] using first

/-- **`sections` of an arranged table are read back as its parts.** -/
theorem Arranged.reads_sections {depth : Nat} {fields : List (String × Json)}
    (arranged : Arranged depth fields) {path : List String} (nonempty : path ≠ [])
    (shallow : path.length + depth ≤ depthLimit) :
    List.Forall₂ Reads (sections path (.obj fields))
      ((parts (.obj fields)).map fun p => (p.under path).lines) := by
  induction arranged generalizing path with
  | @intro depth own tables _ leaves _ ih =>
    rw [sections, parts, sectionsWithin_append leaves, partsWithin_append leaves, List.map_append,
      ownOf_append leaves]
    refine List.rel_append (reads_section nonempty (by omega) leaves tables) (reads_within ?_)
    intro t ht
    exact ih t ht (by simp) (by simp only [List.length_append, List.length_singleton]; omega)

/-- Parts with empty lines between them are read back one after the other. -/
theorem reads_intercalate {texts : List (List Char)} {lines : List (List Line)}
    (each : List.Forall₂ Reads texts lines) :
    Reads (List.intercalate ['\n'] texts) lines.flatten := by
  induction each with
  | nil => exact reads_nil
  | @cons text ls texts lines first others ih =>
    cases others with
    | nil => simpa [List.intercalate] using first
    | cons => simpa [List.intercalate] using first.append (reads_feed.append ih)

/-! ## From the parts to the tables -/

/-- Parts within tables have paths. -/
theorem path_ne_nil {fields : List (String × Json)} {p : Part} (h : p ∈ partsWithin fields) :
    p.path ≠ [] := by
  induction fields with
  | nil => exact absurd h (by simp [partsWithin])
  | cons f fields ih =>
    obtain ⟨name, v⟩ := f
    rw [partsWithin, List.mem_append, List.mem_map] at h
    rcases h with ⟨q, -, rfl⟩ | h
    · exact List.cons_ne_nil _ _
    · exact ih h

/-- Completed members are completed one by one. -/
theorem membersToJson_eq (t : Members) : membersToJson t = t.map fun e => (e.1, e.2.toJson) := by
  induction t with
  | nil => rfl
  | cons e t ih => rw [membersToJson, ih, List.map_cons]

/-- Completed values are what they were. -/
theorem membersToJson_values (own : List (String × Json)) : membersToJson (values own) = own := by
  rw [membersToJson_eq, values, List.map_map]
  exact List.map_id own

/-- Whether filling the parts of a table adds the table to any other one. -/
def Fills (fields : List (String × Json)) : Prop :=
  ∀ (name : String) (t : Members), name ∉ t.map Prod.fst → ∃ n : Node, n.toJson = .obj fields ∧
    fillParts ((parts (.obj fields)).map (Part.within name)) t = some (t ++ [(name, n)])

/-- Tables under new names are added one after the other. -/
theorem fillParts_tables {tables : List (String × List (String × Json))}
    (fills : ∀ t ∈ tables, Fills t.2) {t : Members}
    (distinct : (t.map Prod.fst ++ tables.map Prod.fst).Nodup) :
    ∃ ns : Members, membersToJson ns = asMembers tables ∧
      fillParts (partsWithin (asMembers tables)) t = some (t ++ ns) := by
  induction tables generalizing t with
  | nil => exact ⟨[], rfl, by rw [List.append_nil]; rfl⟩
  | cons table tables ih =>
    obtain ⟨name, fields⟩ := table
    obtain ⟨first, others⟩ := List.forall_mem_cons.mp fills
    have fresh : name ∉ t.map Prod.fst := by
      intro known
      exact (List.nodup_append.mp distinct).2.2 _ known _ (by simp) rfl
    obtain ⟨n, complete, filled⟩ := first name t fresh
    obtain ⟨ns, completes, filleds⟩ := ih others (t := t ++ [(name, n)]) (by simpa using distinct)
    refine ⟨(name, n) :: ns, ?_, ?_⟩
    · rw [membersToJson, complete, completes]
      rfl
    · rw [asMembers, List.map_cons, partsWithin, fillParts_append, filled, Option.bind_some]
      simpa [asMembers] using filleds

/-- **`fillParts` of an arranged table fills a table that is the same.** -/
theorem Arranged.fills {depth : Nat} {fields : List (String × Json)}
    (arranged : Arranged depth fields) : Fills fields := by
  induction arranged with
  | @intro depth own tables distinct leaves _ ih =>
    intro name t fresh
    have inner : ∀ p ∈ partsWithin (asMembers tables), p.path ≠ [] := fun p => path_ne_nil
    rw [parts, ownOf_append leaves, partsWithin_append leaves]
    by_cases omitted : (own.isEmpty && !(own ++ asMembers tables).isEmpty) = true
    · -- Without a header of its own, the table is made by the first header of a table within.
      rw [if_pos omitted, List.nil_append]
      simp only [Bool.and_eq_true, List.isEmpty_iff] at omitted
      obtain ⟨rfl, some'⟩ := omitted
      obtain ⟨ns, completes, filled⟩ := fillParts_tables ih (t := []) distinct
      have parts' : partsWithin (asMembers tables) ≠ [] := by
        intro none'
        rw [none'] at filled
        obtain rfl : [] = ns := Option.some.inj filled
        rw [List.nil_append, ← completes] at some'
        exact absurd some' (by simp [membersToJson])
      refine ⟨.table .parent ns, by rw [Node.toJson, completes, List.nil_append], ?_⟩
      rw [fillParts_within_fresh fresh parts' inner, filled]
      rfl
    · rw [if_neg omitted]
      have same : (values own).map Prod.fst = own.map Prod.fst := by
        rw [values, List.map_map]
        rfl
      obtain ⟨ns, completes, filleds⟩ := fillParts_tables ih (t := values own) (by rwa [same])
      refine ⟨.table .header (values own ++ ns), ?_, ?_⟩
      · rw [Node.toJson, membersToJson_eq, List.map_append, ← membersToJson_eq, ← membersToJson_eq,
          membersToJson_values, completes]
      · have body := assignAll_own (List.nodup_append.mp distinct).1
        have first : (Part.within name ⟨[], own⟩).fill t = some (t ++ [(name, .table .header (values own))]) := by
          change t.fill false (assignAll (assignments own)) [] name = _
          rw [Members.fill, Members.update_fresh fresh, body]
          rfl
        rw [List.map_append, List.map_singleton, List.singleton_append, fillParts, first,
          Option.bind_some, fillParts_within fresh inner, filleds]
        rfl

/-! ## Documents -/

/-- No line begins with the mark that tells the encoding of a text. -/
theorem linesFrom_mark (fuel : Nat) (s : List Char) : linesFrom fuel ('\uFEFF' :: s) = none := by
  cases fuel with
  | zero => rfl
  | succ fuel =>
    have visible : skipBlanks ('\uFEFF' :: s) = '\uFEFF' :: s := by
      rw [skipBlanks, List.dropWhile_cons_of_neg (by decide)]
    have other : quotation? '\uFEFF' = none ∧ isBare '\uFEFF' = false := by decide
    have key' : key ('\uFEFF' :: s) = none := by
      simp [key, pathFrom, visible, name, other]
    simp [linesFrom, visible, pair, key']

/-- A text is read from its front, as it does not begin with the mark that tells an encoding. -/
theorem Reads.lines_eq {s : List Char} {ls : List Line} (reads : Reads s ls) :
    lines (String.ofList s) = some ls := by
  have read := reads.linesFrom_eq (Nat.lt_succ_self s.length)
  rw [lines, String.toList_ofList]
  split
  · rw [linesFrom_mark] at read
    exact absurd read nofun
  · exact read

/-- The outermost table has lines for its values, without a header. -/
theorem reads_outermost {own : List (String × Json)} (leaves : ∀ f ∈ own, Leaf f.2)
    (tables : List (String × List (String × Json))) :
    ∃ lss : List (List Line), lss.flatten = assignments own ∧
      List.Forall₂ Reads (printSection [] (own ++ asMembers tables)) lss := by
  rw [printSection, printOwn_eq, ownOf_append leaves, if_pos List.isEmpty_nil]
  by_cases none' : (own.flatMap fun f => printAssignment f.1 f.2).isEmpty = true
  · obtain rfl : own = [] := by
      cases own with
      | nil => rfl
      | cons f own => simp [printAssignment] at none'
    exact ⟨[], rfl, .nil⟩
  · rw [if_neg none']
    exact ⟨[assignments own], List.append_nil _, .cons (reads_own leaves) .nil⟩

/-- **`parse` reads an arranged table back from its document.** -/
theorem parse_print {depth : Nat} {fields : List (String × Json)} (arranged : Arranged depth fields)
    (shallow : depth ≤ depthLimit) : parse (print (.obj fields)) = some fields := by
  obtain @⟨depth, own, tables, distinct, leaves, arranged⟩ := arranged
  obtain ⟨lss, same, outermost⟩ := reads_outermost leaves tables
  have within' : List.Forall₂ Reads (sectionsWithin [] (asMembers tables))
      ((partsWithin (asMembers tables)).map fun p => (p.under []).lines) :=
    reads_within fun t ht => (arranged t ht).reads_sections (List.cons_ne_nil t.1 [])
      (show 1 + depth ≤ depthLimit by omega)
  have read : lines (print (.obj (own ++ asMembers tables))) =
      some (assignments own ++ (partsWithin (asMembers tables)).flatMap Part.lines) := by
    have reads := (reads_intercalate (List.rel_append outermost within')).lines_eq
    rw [print, sections, sectionsWithin_append leaves, reads, List.flatten_append, same]
    rfl
  obtain ⟨ns, completes, filled⟩ := fillParts_tables (fun t ht => (arranged t ht).fills)
    (t := values own) (by simpa [values, Function.comp_def] using distinct)
  have assigned := assignAll_own (List.nodup_append.mp distinct).1
  rw [parse, read]
  simp only [Option.bind_eq_bind, Option.bind_some, assignAll_append own (assignAll_lines _), fillAll_append,
    assigned, fillAll_lines, filled, Option.map_some]
  rw [membersToJson_eq, List.map_append, ← membersToJson_eq, ← membersToJson_eq,
    membersToJson_values, completes]

end Colloquy.Toml
