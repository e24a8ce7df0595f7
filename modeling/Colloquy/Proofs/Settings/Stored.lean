import Colloquy.Proofs.Json.Related
import Colloquy.Proofs.Settings.Usable
import Colloquy.Proofs.Toml.Documents
import Colloquy.Settings.Print

/-! # Stored settings read back

Settings are shown as a file in which unset values, tables of no headers and nothing else are left
out, and maps are gone through in any order.  Each type of settings is a record whose members, as far
as they are there, give it back (`takes`), and a table whose values come before its tables, so that
the text of the file gives the members back (`arranged`).  The main statement is
`Settings.ofToml_toToml`. -/

namespace Colloquy

open Json (present)

/-! ## Tables -/

namespace Toml

/-- Natural numbers of 32 bits stand on a line. -/
theorem leaf_word (n : UInt32) : Leaf (.ofUInt32 n) := by
  refine leaf_int ?_
  have := n.toNat_lt
  change (n.toNat : Int) < _
  omega

/-- Natural numbers of 64 bits without a sign stand on a line if they fit 64 bits with one. -/
theorem leaf_longWord {n : UInt64} (fits : n.toNat < 9223372036854775808) :
    Leaf (.ofInt n.toNat) := by
  have range : -9223372036854775808 ≤ (n.toNat : Int) ∧ (n.toNat : Int) < 18446744073709551616 := by
    omega
  rw [Json.ofInt, JsonInt.ofInt?, dif_pos range]
  refine leaf_int ?_
  change (n.toNat : Int) < _
  omega

/-- Whether every value that is there stands on a line. -/
def Leaves (members : List (String × Option Json)) : Prop :=
  ∀ m ∈ members, ∀ v, m.2 = some v → Leaf v

@[simp] theorem leaves_nil : Leaves [] := nofun

@[simp] theorem leaves_cons {name : String} {v : Option Json} {members : List (String × Option Json)} :
    Leaves ((name, v) :: members) ↔ (∀ w, v = some w → Leaf w) ∧ Leaves members :=
  List.forall_mem_cons

/-- A value that is there stands on a line. -/
theorem leaf_some {v : Json} (leaf : Leaf v) : ∀ w, some v = some w → Leaf w := by
  rintro w ⟨⟩
  exact leaf

/-- A value that may be there stands on a line. -/
theorem leaf_map {α : Type} {f : α → Json} {x : Option α} (leaf : ∀ a, x = some a → Leaf (f a)) :
    ∀ w, x.map f = some w → Leaf w := by
  intro w here
  obtain ⟨a, given, rfl⟩ := Option.map_eq_some_iff.mp here
  exact leaf a given

/-- The values that are there stand on lines. -/
theorem Leaves.present {members : List (String × Option Json)} (leaves : Leaves members) :
    ∀ f ∈ present members, Leaf f.2 := by
  intro f hf
  obtain ⟨m, hm, given⟩ := List.mem_filterMap.mp hf
  obtain ⟨v, here, rfl⟩ := Option.map_eq_some_iff.mp given
  exact leaves m hm v here

/-- Values that may be left out are arranged, with tables behind them. -/
theorem arranged_present {depth : Nat} {members : List (String × Option Json)}
    {tables : List (String × List (String × Json))} (leaves : Leaves members)
    (distinct : (members.map Prod.fst ++ tables.map Prod.fst).Nodup)
    (arranged : ∀ t ∈ tables, Arranged depth t.2) :
    Arranged (depth + 1) (present members ++ asMembers tables) :=
  .intro (distinct.sublist ((Json.sublist_present members).append (.refl _))) leaves.present arranged

/-- Values alone are arranged. -/
theorem arranged_values {depth : Nat} {own : List (String × Json)} (distinct : (own.map Prod.fst).Nodup)
    (leaves : ∀ f ∈ own, Leaf f.2) : Arranged (depth + 1) own := by
  have arranged : Arranged (depth + 1) (own ++ asMembers []) :=
    .intro (by simpa using distinct) leaves (by simp)
  rwa [asMembers, List.map_nil, List.append_nil] at arranged

/-- Tables alone are arranged. -/
theorem arranged_tables {depth : Nat} {tables : List (String × List (String × Json))}
    (distinct : (tables.map Prod.fst).Nodup) (arranged : ∀ t ∈ tables, Arranged depth t.2) :
    Arranged (depth + 1) (asMembers tables) := by
  show Arranged (depth + 1) ([] ++ asMembers tables)
  exact .intro distinct (by simp) arranged

end Toml

open Toml (Arranged Leaf Leaves asMembers leaf_map leaf_some leaf_str leaf_word leaves_cons leaves_nil)

/-! ## Maps -/

namespace NameMap

variable {α : Type} {m : NameMap α}

/-- A map without entries is the empty one. -/
theorem entries_eq_nil (none' : m.entries = []) : m = .empty := by
  obtain ⟨entries, ordered⟩ := m
  subst none'
  rfl

/-- A map is read from the canonical form of its members. -/
theorem ofJson_obj (d : Json.Decoder α) (fields : List (String × Json)) :
    (decoder d).ofJson (.obj fields) =
      ofFields d (Json.sortFields (Json.canonicalFields fields)) := rfl

/-- A map is read from what decodes to its entries, in canonical form. -/
theorem ofFields_map {d : Json.Decoder α} {f : α → Json} (each : ∀ e ∈ m.entries, d.ofJson (f e.2) = .ok e.2) :
    ofFields d (m.map f).entries = .ok m := by
  have values : (m.map f).entries.mapM (fun e : String × Json => do .ok (e.1, ← d.ofJson e.2)) =
      .ok (m.entries.map id) := by
    rw [map, List.mapM_map]
    refine Except.mapM_eq_ok_map fun e mem => ?_
    simp only [Function.comp_apply, each e mem]
    rfl
  rw [ofFields, values, List.map_id]
  exact congrArg Except.ok (ofList_of_perm (.refl m.entries))

/-- Canonical form puts the members of a map in the order of their names. -/
theorem canonicalFields_listed (o : NameOrder) (g : α → Json) (m : NameMap α) :
    Json.sortFields (Json.canonicalFields ((m.map g).listed o)) =
      (m.map fun a => (g a).canonical).entries := by
  have same : (m.map g).map Json.canonical = m.map fun a => (g a).canonical := by
    simp [map]
  rw [Json.sortFields_eq_entries, Json.canonicalFields_eq_map, ← listed_map, same]
  exact congrArg entries (ofList_of_perm (perm_listed o _))

/-- **A map is read from its entries**, whatever their order. -/
theorem takes {d : Json.Decoder α} {g : α → Json} (o : NameOrder)
    (each : ∀ e ∈ m.entries, d.Takes (g e.2) e.2) : (decoder d).Takes (m.toJson o g) m := by
  have canonical : (m.toJson o g).canonical = .obj (m.map fun a => (g a).canonical).entries := by
    rw [toJson, Json.canonical, canonicalFields_listed]
  have again := Json.canonical_canonical (m.toJson o g)
  rw [canonical, Json.canonical] at again
  have read : ofFields d (m.map fun a => (g a).canonical).entries = .ok m :=
    ofFields_map fun e mem => (each e mem).canonical
  refine ⟨⟨?_, ?_⟩, by simp [toJson]⟩
  · rw [toJson, ofJson_obj, canonicalFields_listed, read]
  · rw [canonical, ofJson_obj, Json.obj.inj again, read]

end NameMap

/-! ## Single settings -/

/-- A single in range is finite. -/
theorem Single.exists_value {x : Single} {low high : Nat} (range : x.between low high = true) :
    ∃ negative m e, x.value = .finite negative m e := by
  rw [between] at range
  split at range
  · next h => exact ⟨_, _, _, h⟩
  · exact absurd range nofun

/-- A single in range is shown as a double. -/
theorem Json.ofSingle_eq {x : Single} {low high : Nat} (range : x.between low high = true) :
    Json.ofSingle x = .num (.float x.toDouble) ∧ x.toDouble.isFinite = true := by
  obtain ⟨negative, m, e, h⟩ := Single.exists_value range
  obtain ⟨m', e', wide, -⟩ := Single.value_toDouble h
  have finite : x.toDouble.isFinite = true := by rw [Double.isFinite, wide]
  exact ⟨if_pos finite, finite⟩

/-- Singles in range stand on a line. -/
theorem leaf_single {x : Single} {low high : Nat} (range : x.between low high = true) :
    Leaf (.ofSingle x) := by
  obtain ⟨shown, finite⟩ := Json.ofSingle_eq range
  rw [shown]
  exact Toml.leaf_float finite

/-- **A single in range is read back.** -/
theorem Json.Decoder.takes_single {x : Single} {low high : Nat}
    (range : x.between low high = true) : single.Takes (.ofSingle x) x := by
  obtain ⟨negative, m, e, h⟩ := Single.exists_value range
  rw [(Json.ofSingle_eq range).1]
  exact .of_canonical nofun rfl (congrArg Except.ok (Single.toSingle_toDouble h))

/-! ## Types of settings -/

namespace AgentSettings

/-- The members of settings of runs. -/
def members (s : AgentSettings) : List (String × Option Json) :=
  [("max_iterations", some (.ofUInt32 s.maxIterations)), ("retries", some (.ofUInt32 s.retries)),
    ("output_retries", s.outputRetries.map .ofUInt32), ("output_mode", some (.str s.outputMode))]

/-- Settings of runs are shown as the members that are there. -/
theorem toJson_eq (s : AgentSettings) : s.toJson = .obj (present s.members) := by
  simp [toJson, members]

/-- Settings of runs are read from their members. -/
theorem takes (s : AgentSettings) (title : String) :
    (record.lenientDecoder title).Takes s.toJson s := by
  rw [toJson_eq]
  refine Json.Record.lenientDecoder_takes _ (by decide) (by simp [members]) ?_
  refine .orElse (.optional (.orElse (.orElse (.make _) rfl ?_) rfl ?_) rfl ?_) rfl ?_
  · exact Json.Decoder.takes_word s.maxIterations
  · exact Json.Decoder.takes_word s.retries
  · exact fun n _ => Json.Decoder.takes_word n
  · exact Json.Decoder.takes_string s.outputMode

/-- Settings of runs are a table of values. -/
theorem arranged (s : AgentSettings) (depth : Nat) : Arranged (depth + 1) (present s.members) := by
  have leaves : Leaves s.members := by
    simp only [members, leaves_cons, leaves_nil, and_true]
    exact ⟨leaf_some (leaf_word _), leaf_some (leaf_word _), leaf_map fun n _ => leaf_word n,
      leaf_some (leaf_str _)⟩
  exact Toml.arranged_values (Json.nodup_present (by simp [members])) leaves.present

end AgentSettings

namespace UsageLimits

/-- The members of ceilings. -/
def members (l : UsageLimits) : List (String × Option Json) :=
  [("request_limit", some (.ofUInt32 l.requestLimit)),
    ("completion_tokens_limit", some (.ofUInt32 l.completionTokensLimit)),
    ("tool_calls_limit", some (.ofUInt32 l.toolCallsLimit))]

/-- Ceilings are shown as their members. -/
theorem toJson_eq (l : UsageLimits) : l.toJson = .obj (present l.members) := rfl

/-- Ceilings are read from their members. -/
theorem takes (l : UsageLimits) (title : String) :
    (record.lenientDecoder title).Takes l.toJson l := by
  rw [toJson_eq]
  refine Json.Record.lenientDecoder_takes _ (by decide) (by simp [members]) ?_
  refine .orElse (.orElse (.orElse (.make _) rfl ?_) rfl ?_) rfl ?_
  all_goals exact Json.Decoder.takes_word _

/-- Ceilings are a table of values. -/
theorem arranged (l : UsageLimits) (depth : Nat) : Arranged (depth + 1) (present l.members) := by
  have leaves : Leaves l.members := by
    simp only [members, leaves_cons, leaves_nil, and_true]
    exact ⟨leaf_some (leaf_word _), leaf_some (leaf_word _), leaf_some (leaf_word _)⟩
  exact Toml.arranged_values (Json.nodup_present (by simp [members])) leaves.present

end UsageLimits

namespace ProviderSettings

/-- The members of settings of a provider. -/
def members (s : ProviderSettings) : List (String × Option Json) :=
  [("api_key", s.apiKey.map .str), ("api_url", s.apiUrl.map .str),
    ("default_model", s.defaultModel.map .str)]

/-- Settings of a provider are shown as the members that are there. -/
theorem toJson_eq (s : ProviderSettings) : s.toJson = .obj (present s.members) := by
  simp [toJson, members]

/-- Settings of a provider are read from their members. -/
theorem takes (s : ProviderSettings) (title : String) :
    (record.lenientDecoder title).Takes s.toJson s := by
  rw [toJson_eq]
  refine Json.Record.lenientDecoder_takes _ (by decide) (by simp [members]) ?_
  refine .optional (.optional (.optional (.make _) rfl ?_) rfl ?_) rfl ?_
  all_goals exact fun text _ => Json.Decoder.takes_string text

/-- Settings of a provider are a table of values. -/
theorem arranged (s : ProviderSettings) (depth : Nat) : Arranged (depth + 1) (present s.members) := by
  have leaves : Leaves s.members := by
    simp only [members, leaves_cons, leaves_nil, and_true]
    exact ⟨leaf_map fun text _ => leaf_str text, leaf_map fun text _ => leaf_str text,
      leaf_map fun text _ => leaf_str text⟩
  exact Toml.arranged_values (Json.nodup_present (by simp [members])) leaves.present

end ProviderSettings

namespace ClientSettings

/-- The members of settings of requests that are values. -/
def values (s : ClientSettings) : List (String × Option Json) :=
  [("max_retries", some (.ofUInt32 s.maxRetries)),
    ("attempt_timeout_secs", some (.ofInt s.attemptTimeoutSecs.toNat)),
    ("total_timeout_secs", some (.ofInt s.totalTimeoutSecs.toNat))]

/-- The headers, if there are any. -/
def tables (o : NameOrder) (s : ClientSettings) : List (String × List (String × Json)) :=
  if s.headers.entries.isEmpty then [] else [("headers", (s.headers.map .str).listed o)]

/-- Settings of requests are shown as their values and the headers. -/
theorem toJson_eq (o : NameOrder) (s : ClientSettings) :
    s.toJson o = .obj (present s.values ++ asMembers (s.tables o)) := by
  rw [toJson, tables]
  split <;> rfl

/-- Settings of requests are read from their members. -/
theorem takes (o : NameOrder) (s : ClientSettings) (title : String) :
    (record.lenientDecoder title).Takes (s.toJson o) s := by
  have members : s.toJson o = .obj (present (s.values ++ [("headers",
      if s.headers.entries.isEmpty then none else some (s.headers.toJson o .str))])) := by
    rw [toJson]
    split <;> rfl
  rw [members]
  refine Json.Record.lenientDecoder_takes _ (by decide) (by simp [values]) ?_
  refine .unless (.orElse (.orElse (.orElse (.make _) rfl ?_) rfl ?_) rfl ?_) rfl ?_ ?_
  · exact Json.Decoder.takes_word s.maxRetries
  · exact Json.Decoder.takes_longWord s.attemptTimeoutSecs
  · exact Json.Decoder.takes_longWord s.totalTimeoutSecs
  · intro w here
    split at here
    · cases here
    · obtain rfl := Option.some.inj here
      exact NameMap.takes o fun e _ => Json.Decoder.takes_string e.2
  · intro none'
    split at none'
    · next h => exact NameMap.entries_eq_nil (List.isEmpty_iff.mp h)
    · cases none'

/-- Settings of requests are a table of values and headers. -/
theorem arranged (o : NameOrder) (s : ClientSettings) (attempt : s.attemptTimeoutSecs.toNat < 9223372036854775808)
    (total : s.totalTimeoutSecs.toNat < 9223372036854775808) (depth : Nat) :
    Arranged (depth + 2) (present s.values ++ asMembers (s.tables o)) := by
  have leaves : Leaves s.values := by
    simp only [values, leaves_cons, leaves_nil, and_true]
    exact ⟨leaf_some (leaf_word _), leaf_some (Toml.leaf_longWord attempt),
      leaf_some (Toml.leaf_longWord total)⟩
  have headers : Arranged (depth + 1) ((s.headers.map .str).listed o) := by
    refine Toml.arranged_values (NameMap.nodup_listed o (s.headers.map Json.str)) fun f hf => ?_
    obtain ⟨e, -, rfl⟩ := List.mem_map.mp (NameMap.listed_map o Json.str s.headers ▸ hf)
    exact leaf_str e.2
  refine Toml.arranged_present leaves ?_ ?_
  · rw [tables]
    split <;> simp [values]
  · intro t ht
    rw [tables] at ht
    split at ht
    · cases ht
    · obtain rfl := List.mem_singleton.mp ht
      exact headers

end ClientSettings

namespace Settings

/-- The members of settings that are values. -/
def values (s : Settings) : List (String × Option Json) :=
  [("api_key", s.apiKey.map .str), ("base_url", s.baseUrl.map .str),
    ("default_provider", some (.str s.defaultProvider)), ("default_model", some (.str s.defaultModel)),
    ("default_temperature", s.defaultTemperature.map .ofSingle),
    ("default_max_tokens", s.defaultMaxTokens.map .ofUInt32)]

/-- The members of settings that are tables. -/
def tables (o : MapOrders) (s : Settings) : List (String × List (String × Json)) :=
  [("agent", present s.agent.members), ("limits", present s.limits.members),
    ("client", present s.client.values ++ asMembers (s.client.tables o.headers)),
    ("providers", asMembers ((s.providers.map fun p => present p.members).listed o.sections))]

/-- All members of settings. -/
def members (o : MapOrders) (s : Settings) : List (String × Option Json) :=
  s.values ++ [("agent", some s.agent.toJson), ("limits", some s.limits.toJson),
    ("client", some (s.client.toJson o.headers)),
    ("providers", some (s.providers.toJson o.sections ProviderSettings.toJson))]

/-- Settings are shown as the members that are there. -/
theorem toJson_eq_members (o : MapOrders) (s : Settings) :
    s.toJson o = .obj (present (s.members o)) := by
  simp [toJson, members, values]

/-- The members that are there are the values and the tables. -/
theorem present_members (o : MapOrders) (s : Settings) :
    present (s.members o) = present s.values ++ asMembers (s.tables o) := by
  have providers : s.providers.toJson o.sections ProviderSettings.toJson =
      .obj (asMembers ((s.providers.map fun p => present p.members).listed o.sections)) := by
    simp [NameMap.toJson, NameMap.listed_map, asMembers, ProviderSettings.toJson_eq]
  simp [members, values, tables, asMembers, AgentSettings.toJson_eq, UsageLimits.toJson_eq,
    ClientSettings.toJson_eq, providers]

section Range

variable {s : Settings} (range : ∀ t, s.defaultTemperature = some t → t.between 0 2 = true)

include range

/-- **`record.ofFields` reads settings from their members.** -/
theorem ofFields_members (o : MapOrders) : record.ofFields (present (s.members o)) = .ok s := by
  refine (Json.Record.ofFields_present (by decide) (by simp [members, values]) ?_).1
  refine .orElse (.orElse (.orElse (.orElse (.optional (.optional (.orElse (.orElse (.optional
    (.optional (.make _) rfl ?_) rfl ?_) rfl ?_) rfl ?_) rfl ?_) rfl ?_) rfl ?_) rfl ?_) rfl ?_) rfl ?_
  · exact fun key _ => Json.Decoder.takes_string key
  · exact fun url _ => Json.Decoder.takes_string url
  · exact Json.Decoder.takes_string s.defaultProvider
  · exact Json.Decoder.takes_string s.defaultModel
  · exact fun t given => Json.Decoder.takes_single (range t given)
  · exact fun n _ => Json.Decoder.takes_word n
  · exact s.agent.takes _
  · exact s.limits.takes _
  · exact s.client.takes o.headers _
  · exact NameMap.takes o.sections fun e _ => e.2.takes _

/-- **Settings are arranged**, if their times are such as a file can hold. -/
theorem arranged (o : MapOrders) (attempt : s.client.attemptTimeoutSecs.toNat < 9223372036854775808)
    (total : s.client.totalTimeoutSecs.toNat < 9223372036854775808) :
    Arranged 3 (present (s.members o)) := by
  have leaves : Leaves s.values := by
    simp only [values, leaves_cons, leaves_nil, and_true]
    exact ⟨leaf_map fun key _ => leaf_str key, leaf_map fun url _ => leaf_str url,
      leaf_some (leaf_str _), leaf_some (leaf_str _), leaf_map fun t given => leaf_single (range t given),
      leaf_map fun n _ => leaf_word n⟩
  have providers : Arranged 2
      (asMembers ((s.providers.map fun p => present p.members).listed o.sections)) := by
    refine Toml.arranged_tables (NameMap.nodup_listed o.sections _) fun t ht => ?_
    rw [NameMap.listed_map] at ht
    obtain ⟨e, -, rfl⟩ := List.mem_map.mp ht
    exact e.2.arranged 0
  rw [present_members]
  refine Toml.arranged_present leaves (by simp [values, tables]) ?_
  simp only [tables, List.forall_mem_cons]
  exact ⟨s.agent.arranged 1, s.limits.arranged 1, s.client.arranged o.headers attempt total 0,
    providers, nofun⟩

end Range

/-- **`ofToml` reads valid settings back from `toToml`**, whatever is set and left out and whatever
the order of maps is, if their times fit 64 bits with a sign, as whole numbers of a file do. -/
theorem ofToml_toToml {s : Settings} (o : MapOrders) (valid : s.validate = .ok ())
    (attempt : s.client.attemptTimeoutSecs.toNat < 9223372036854775808)
    (total : s.client.totalTimeoutSecs.toNat < 9223372036854775808) :
    ofToml (s.toToml o) = .ok s := by
  have range := (AgentConfig.validate_eq_ok.mp (validate_eq_ok.mp valid).1).2
  have parsed : Toml.parse (s.toToml o) = some (present (s.members o)) := by
    rw [toToml, toJson_eq_members]
    exact Toml.parse_print (arranged range o attempt total) (by decide)
  simp only [ofToml, parsed, ofFields_members range o]
  rfl

/-- Settings with quotes, line breaks and blanks in their texts, the greatest times, a temperature
that is no short decimal, a header and two providers, one of which has nothing set. -/
def unusual : Settings where
  apiKey := some "a\"b'\n\"\"\"'''\\"
  baseUrl := none
  defaultProvider := ""
  defaultModel := " tab\t"
  defaultTemperature := some ⟨0x3DCCCCCD⟩
  defaultMaxTokens := some 4294967295
  agent := ⟨1, 0, some 0, "ToOl"⟩
  limits := .none
  client := ⟨0, 9223372036854775807, 1, ⟨[("x y", "''")], by decide⟩⟩
  providers := ⟨[("", .standard), ("a.b", ⟨none, some "u", none⟩)], by decide⟩

/-- The sections from the last one on. -/
def backwards : MapOrders := ⟨.sorted, ⟨List.reverse, List.reverse_perm⟩⟩

/-- The unusual settings read back, also with their sections the other way round. -/
theorem ofToml_toToml_unusual : unusual.validate = .ok () ∧
    ofToml (unusual.toToml .sorted) = .ok unusual ∧
    ofToml (unusual.toToml backwards) = .ok unusual := by
  have valid : unusual.validate = .ok () := by decide +kernel
  exact ⟨valid, ofToml_toToml .sorted valid (by decide) (by decide),
    ofToml_toToml backwards valid (by decide) (by decide)⟩

end Settings

end Colloquy
