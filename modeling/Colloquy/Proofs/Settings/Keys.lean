import Colloquy.Proofs.Json.Related
import Colloquy.Proofs.Settings.Usable
import Colloquy.Settings.Print

/-! # Settings that differ in keys alone

Two of a kind are alike aside from keys if only the values of keys may differ: a key that is set on
one side is set on the other.  This is said of settings, of the environment, and of the settings
file, where keys stand at the top and in the sections of providers.  Settings stay so on every way
from a file and an environment to what is shown: the main statements are `Settings.load_keysAside`
and `Settings.masked_eq_of_keysAside`. -/

namespace Colloquy

/-! ## Settings -/

/-- Settings of a provider that differ in `apiKey` alone, which both have or neither. -/
structure ProviderSettings.KeysAside (p q : ProviderSettings) : Prop where
  /-- The key is set on both sides or on neither. -/
  key : p.apiKey.isSome = q.apiKey.isSome
  /-- Everything else is the same. -/
  others : q = { p with apiKey := q.apiKey }

/-- Settings that differ in keys alone. -/
structure Settings.KeysAside (s t : Settings) : Prop where
  /-- The general key is set on both sides or on neither. -/
  key : s.apiKey.isSome = t.apiKey.isSome
  /-- The sections have the same names and differ in keys alone. -/
  sections : s.providers.Related ProviderSettings.KeysAside t.providers
  /-- Everything else is the same. -/
  others : t = { s with apiKey := t.apiKey, providers := t.providers }

/-- The variables that hold keys. -/
def Environment.keyNames : List String :=
  ["TYPECLAW_API_KEY", "OPENAI_API_KEY", "OPENROUTER_API_KEY"]

/-- Environments that differ in the values of `keyNames` alone. -/
structure Environment.KeysAside (env env' : Environment) : Prop where
  /-- Variables that hold keys are set on both sides or on neither. -/
  keys : ∀ name ∈ keyNames, (env name).isSome = (env' name).isSome
  /-- All others are the same. -/
  others : ∀ name, name ∉ keyNames → env name = env' name

namespace ProviderSettings.KeysAside

/-- Nothing differs from itself. -/
theorem refl (p : ProviderSettings) : p.KeysAside p := ⟨rfl, rfl⟩

/-- Two keys make no other difference. -/
theorem of_keys (first second : String) (url model : Option String) :
    KeysAside ⟨some first, url, model⟩ ⟨some second, url, model⟩ := ⟨rfl, rfl⟩

end ProviderSettings.KeysAside

namespace Settings

variable {s t : Settings} {env env' : Environment}

/-- Nothing differs from itself. -/
theorem KeysAside.refl (s : Settings) : s.KeysAside s :=
  ⟨rfl, .refl .refl _, rfl⟩

/-- `maskKey` shows only whether there is a key. -/
theorem maskKey_congr {key key' : Option String} (h : key.isSome = key'.isSome) :
    maskKey key = maskKey key' := by
  cases key <;> cases key' <;> first | rfl | cases h

/-- **`Settings.masked` is the same for settings that differ in keys alone.** -/
theorem masked_eq_of_keysAside (h : s.KeysAside t) : s.masked = t.masked := by
  have sections : s.providers.map (fun p => { p with apiKey := maskKey p.apiKey }) =
      t.providers.map fun p => { p with apiKey := maskKey p.apiKey } := by
    refine NameMap.Related.map_eq (h.sections.imp fun e f pair => ⟨pair.name, ?_⟩)
    obtain ⟨key, others⟩ := pair.value
    rw [others, maskKey_congr key]
  rw [masked, sections, maskKey_congr h.key, masked, h.others]

/-- `Settings.validate` looks at no key. -/
theorem validate_eq_of_keysAside (h : s.KeysAside t) : s.validate = t.validate := by
  rw [h.others]
  rfl

/-- **`Settings.override` goes by which keys are set only.** -/
theorem override_keysAside (h : s.KeysAside t) (around : env.KeysAside env') :
    (s.override env).KeysAside (t.override env') := by
  have provider := around.others "TYPECLAW_PROVIDER" (by decide)
  have model := around.others "TYPECLAW_MODEL" (by decide)
  have url := around.others "TYPECLAW_BASE_URL" (by decide)
  refine ⟨?_, h.sections, ?_⟩
  · have own := around.keys "TYPECLAW_API_KEY" (by decide)
    have openai := around.keys "OPENAI_API_KEY" (by decide)
    have openrouter := around.keys "OPENROUTER_API_KEY" (by decide)
    simp only [override, overriddenKey, Option.isSome_or, own, openai, openrouter, h.key]
  · rw [override, override, provider, model, url, h.others]

end Settings

/-! ## Files -/

section Documents

open Json NameMap

/-- Members of one name that are the same, or two strings if the name is `api_key`. -/
inductive KeyAside (name : String) : Json → Json → Prop where
  /-- The same value. -/
  | same (v : Json) : KeyAside name v v
  /-- Two keys. -/
  | key (named : name = "api_key") (first second : String) :
    KeyAside name (.str first) (.str second)

/-- Sections of one provider that differ in the key alone. -/
inductive SectionAside : Json → Json → Prop where
  /-- The same section. -/
  | same (v : Json) : SectionAside v v
  /-- Two tables. -/
  | table {fields others : List (String × Json)}
    (members : List.Forall₂ (Paired KeyAside) fields others) :
    SectionAside (.obj fields) (.obj others)
  /-- Two arrays of the fields; the key comes first. -/
  | array (first second : String) (rest : List Json) :
    SectionAside (.arr (.str first :: rest)) (.arr (.str second :: rest))

/-- Members of a document that differ in keys alone. -/
inductive MemberAside (name : String) : Json → Json → Prop where
  /-- The same value, or two general keys. -/
  | general {v w : Json} (h : KeyAside name v w) : MemberAside name v w
  /-- The sections of providers. -/
  | sections (named : name = "providers") {tables others : List (String × Json)}
    (members : List.Forall₂ (Paired fun _ => SectionAside) tables others) :
    MemberAside name (.obj tables) (.obj others)

/-- Files that differ in keys alone. -/
inductive FileContent.KeysAside : FileContent → FileContent → Prop where
  /-- There is no file. -/
  | missing : KeysAside .missing .missing
  /-- There is something that cannot be read as text. -/
  | unreadable (reason : String) : KeysAside (.unreadable reason) (.unreadable reason)
  /-- Two documents. -/
  | document {text text' : String} {fields others : List (String × Json)}
    (parsed : Toml.parse text = some fields) (parsed' : Toml.parse text' = some others)
    (members : List.Forall₂ (Paired MemberAside) fields others) :
    KeysAside (.text text) (.text text')
  /-- Two texts of settings, however they are written. -/
  | settings {text text' : String} {s t : Settings} (read : Settings.ofToml text = .ok s)
    (read' : Settings.ofToml text' = .ok t) (alike : s.KeysAside t) :
    KeysAside (.text text) (.text text')
  /-- Two texts that are no documents; nothing in them can be told to be a key. -/
  | malformed {text text' : String} (unparsed : Toml.parse text = none)
    (unparsed' : Toml.parse text' = none) : KeysAside (.text text) (.text text')

variable {v w : Json} {name : String}

/-! ### Sections -/

/-- Canonical form changes nothing about keys. -/
theorem KeyAside.canonical (h : KeyAside name v w) : KeyAside name v.canonical w.canonical := by
  cases h with
  | same v => exact .same _
  | key named first second => exact .key named first second

/-- Sections in canonical form differ in the key alone if they did before. -/
theorem SectionAside.canonical (h : SectionAside v w) : SectionAside v.canonical w.canonical := by
  cases h with
  | same v => exact .same _
  | table members => exact .table (forall₂_canonical (fun _ _ _ h => h.canonical) members)
  | array first second rest => exact .array first second (canonicalItems rest)

/-- A member that is no key is the same. -/
theorem KeyAside.eq_of_ne (h : KeyAside name v w) (other : name ≠ "api_key") : v = w := by
  cases h with
  | same v => rfl
  | key named => exact absurd named other

/-- Keys are read as keys, or for the same reason not at all. -/
theorem KeyAside.relates (h : KeyAside name v w) :
    Decoder.string.option.Relates (fun k k' => k.isSome = k'.isSome) v w := by
  cases h with
  | same v => exact Decoder.relates_self (fun k => Eq.refl k.isSome) v
  | key named first second => exact .ok rfl

/-- **Tables that differ in the key alone are read as settings that do.** -/
theorem ProviderSettings.record_respects : record.Respects KeyAside ProviderSettings.KeysAside := by
  -- The fields after the key are no keys.
  iterate 2 refine .orElse_same ?_ fun v w member => member.eq_of_ne (by decide)
  refine .orElse (fun k k' => k.isSome = k'.isSome) ?_ (fun v w member => member.relates) rfl
  intro k k' key url model
  exact ⟨key, rfl⟩

/-- **Sections that differ in the key alone are read as settings that do**, or for the same reason
not at all. -/
theorem SectionAside.relates (h : SectionAside v w) (title : String) :
    (ProviderSettings.record.lenientDecoder title).Relates ProviderSettings.KeysAside v w := by
  cases h with
  | same v => exact Decoder.relates_self ProviderSettings.KeysAside.refl v
  | table members => exact ProviderSettings.record_respects.ofFields members
  | array first second rest =>
    -- The key is the first item, and the fields after it are read alike.
    have start : ((Record.make ProviderSettings.mk).optional "api_key" .string).TakesAlike
        (fun f g => ∀ url model, (f url model).KeysAside (g url model)) title 3
        (.str first :: rest) (.str second :: rest) :=
      .ok ⟨ProviderSettings.KeysAside.of_keys first second, rfl⟩
    have whole : ProviderSettings.record.TakesAlike ProviderSettings.KeysAside title 3
        (.str first :: rest) (.str second :: rest) := .field (.field start)
    exact whole.map fun x y related => related.1

/-- Maps read from related members have related entries. -/
theorem NameMap.relates_map {α : Type} {V : Json → Json → Prop} {R : α → α → Prop} {d : Decoder α}
    {fields others : List (String × Json)} (keeps : ∀ v w, V v w → V v.canonical w.canonical)
    (reads : ∀ v w, V v w → d.Relates R v w)
    (h : List.Forall₂ (Paired fun _ => V) fields others) :
    (decoder d).Relates (Related R) (.obj fields) (.obj others) := by
  have entry : ∀ e f : String × Json, Paired (fun _ => V) e f →
      Except.Related Eq (Paired fun _ => R) (do .ok (e.1, ← d.ofJson e.2))
        (do .ok (f.1, ← d.ofJson f.2)) := by
    intro e f pair
    exact (reads _ _ pair.value).bind fun a b related => .ok ⟨pair.name, related⟩
  have entries := Except.Related.mapM entry (forall₂_canonical (fun _ => keeps) h)
  exact entries.bind fun es fs related => .ok (forall₂_ofList related)

/-! ### Documents -/

/-- A member that is neither a key nor a section is the same. -/
theorem MemberAside.eq_of_ne (h : MemberAside name v w)
    (other : name ≠ "api_key" ∧ name ≠ "providers") : v = w := by
  cases h with
  | general h => exact h.eq_of_ne other.1
  | sections named => exact absurd named other.2

/-- **Documents that differ in keys alone are read as settings that do.** -/
theorem Settings.record_respects : record.Respects MemberAside Settings.KeysAside := by
  refine .orElse (Related ProviderSettings.KeysAside) ?fields ?sections .nil
  case fields =>
    -- Everything between the key and the sections is the same on both sides.
    iterate 8 refine .orElse_same ?_ fun v w member => member.eq_of_ne (by decide)
    refine .orElse (fun k k' => k.isSome = k'.isSome) ?_ ?key rfl
    · intro k k' key url provider model temperature tokens agent limits client m n sections
      exact ⟨key, sections, rfl⟩
    case key =>
      intro v w member
      cases member with
      | general h => exact h.relates
      | sections named => exact absurd named (by decide)
  case sections =>
    intro v w member
    cases member with
    | general h =>
      rw [h.eq_of_ne (by decide)]
      exact Decoder.relates_self (Related.refl ProviderSettings.KeysAside.refl) w
    | sections named members =>
      exact relates_map (fun _ _ h => h.canonical) (fun _ _ h => h.relates _) members

end Documents

/-! ### Loading -/

/-- Whether a file is a text that `Settings.ofToml` refuses for some reason. -/
structure FileContent.Refused (file : FileContent) (text : String) (reason : Toml.Refusal) :
    Prop where
  /-- It is that text. -/
  content : file = .text text
  /-- The text is no settings, for that reason. -/
  refused : Settings.ofToml text = .error reason

namespace Settings

variable {env env' : Environment} {file file' : FileContent} {path text text' : String}
  {reason : Toml.Refusal}

/-- **`ofToml` reads texts that differ in keys alone as settings that do**, or for the same reason
not at all. -/
theorem ofToml_keysAside (h : (FileContent.text text).KeysAside (.text text')) :
    Except.Related Eq KeysAside (ofToml text) (ofToml text') := by
  cases h with
  | document parsed parsed' members =>
    rw [ofToml, ofToml, parsed, parsed']
    exact (record_respects.ofFields members).mapError fun _ _ => congrArg _
  | settings read read' alike =>
    rw [read, read']
    exact .ok alike
  | malformed unparsed unparsed' =>
    rw [ofToml, ofToml, unparsed, unparsed']
    exact .error rfl

/-- Files that differ in keys alone are two texts, or the same and no text. -/
theorem texts_of_keysAside (h : file.KeysAside file') :
    (∃ text text', file = .text text ∧ file' = .text text') ∨
      file = file' ∧ ∀ text, file ≠ .text text := by
  cases h with
  | missing => exact .inr ⟨rfl, nofun⟩
  | unreadable reason => exact .inr ⟨rfl, nofun⟩
  | document => exact .inl ⟨_, _, rfl, rfl⟩
  | settings => exact .inl ⟨_, _, rfl, rfl⟩
  | malformed => exact .inl ⟨_, _, rfl, rfl⟩

/-- **Files that differ in keys alone are no settings for the same reason**, or are not refused. -/
theorem refused_keysAside (h : file.KeysAside file') :
    (∃ text text' reason, file.Refused text reason ∧ file'.Refused text' reason) ∨
      (∀ text reason, ¬ file.Refused text reason) ∧ ∀ text reason, ¬ file'.Refused text reason := by
  rcases texts_of_keysAside h with ⟨text, text', rfl, rfl⟩ | ⟨rfl, none'⟩
  · have related := ofToml_keysAside h
    cases here : ofToml text with
    | error reason =>
      obtain ⟨_, there, rfl⟩ := (here ▸ related).exists_of_error
      exact .inl ⟨text, text', reason, ⟨rfl, here⟩, ⟨rfl, there⟩⟩
    | ok s =>
      obtain ⟨t, there, -⟩ := (here ▸ related).exists_of_ok
      refine .inr ⟨?_, ?_⟩
      · rintro _ reason ⟨⟨⟩, refused⟩
        cases here.symm.trans refused
      · rintro _ reason ⟨⟨⟩, refused⟩
        cases there.symm.trans refused
  · exact .inr ⟨fun text _ h => none' text h.content, fun text _ h => none' text h.content⟩

/-- `Settings.load` fails for a file that is refused. -/
theorem load_of_refused (refused : file.Refused text reason) (path : String) (env : Environment) :
    load path file env = .error (.malformed path text reason) := by
  obtain ⟨rfl, no⟩ := refused
  rw [load_eq, ofFile, no]
  rfl

/-- **`ofFile` of files that differ in keys alone gives settings that do**, unless they are refused.
-/
theorem ofFile_keysAside (path : String) (h : file.KeysAside file')
    (read : ∀ text reason, ¬ file.Refused text reason) :
    Except.Related Eq KeysAside (ofFile path file) (ofFile path file') := by
  rcases texts_of_keysAside h with ⟨text, text', rfl, rfl⟩ | ⟨rfl, -⟩
  · cases here : ofToml text with
    | error reason => exact absurd ⟨rfl, here⟩ (read text reason)
    | ok s =>
      obtain ⟨t, there, alike⟩ := (here ▸ ofToml_keysAside h).exists_of_ok
      have file : ∀ {text s}, ofToml text = .ok s → ofFile path (.text text) =
          s.validate.mapError SettingsError.invalid >>= fun _ => .ok s := by
        intro text s read
        rw [ofFile, read]
        rfl
      rw [file here, file there]
      -- Settings that differ in keys alone are validated alike.
      have validated : Except.Related Eq (fun _ _ => True)
          (s.validate.mapError SettingsError.invalid) (t.validate.mapError SettingsError.invalid) := by
        rw [validate_eq_of_keysAside alike]
        exact .refl (fun _ => rfl) (fun _ => trivial) _
      exact validated.bind fun _ _ _ => .ok alike
  · exact .refl (fun _ => rfl) .refl _

/-- **`Settings.load` gives settings that differ in keys alone** if the files and the environments
do and the files are not refused. -/
theorem load_keysAside (path : String) (h : file.KeysAside file') (around : env.KeysAside env')
    (read : ∀ text reason, ¬ file.Refused text reason) :
    Except.Related Eq KeysAside (load path file env) (load path file' env') := by
  -- The second validation finds what the first one has found, so only overriding is left.
  rw [load_eq, load_eq]
  exact (ofFile_keysAside path h read).map fun s t alike => override_keysAside alike around

end Settings

end Colloquy
