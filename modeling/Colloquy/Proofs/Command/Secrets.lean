import Colloquy.Command.Program
import Colloquy.Http.Offline
import Colloquy.Proofs.Settings.Keys
import Colloquy.Settings.Blame

/-! # Which keys are shown

The command that shows the settings is carried out in two places that differ in keys alone: in the
environment, at the top of the settings file, or in the sections of providers.  Nobody can tell from
how it ends which place it was, unless the settings file is refused: then the report quotes the line
of the file that is at fault, with the keys in it.  `Command.inspect_keysAside` says so, and
`Command.inspect_leaks` gives two places where the command ends differently. -/

namespace Colloquy.Command

variable {σ σ' : Type} {site : Site σ} {site' : Site σ'} {text : String} {reason : Toml.Refusal}

/-! ## Places and endings -/

/-- Places that differ in keys alone. -/
structure Site.KeysAside (site : Site σ) (site' : Site σ') : Prop where
  /-- The user's home is the same. -/
  home : site.home = site'.home
  /-- The environments differ in keys alone. -/
  around : site.env.KeysAside site'.env
  /-- The settings files differ in keys alone. -/
  file : (site.files.read site.settingsPath).KeysAside (site'.files.read site'.settingsPath)
  /-- Reports are worded the same. -/
  wording : site.wording = site'.wording
  /-- The maps are gone through in the same orders. -/
  orders : site.orders = site'.orders

/-- Whether the settings file is a text that `Settings.ofToml` refuses for some reason. -/
def Site.Refuses (site : Site σ) (text : String) (reason : Toml.Refusal) : Prop :=
  (site.files.read site.settingsPath).Refused text reason

/-- The report about a settings file that is no settings: `Toml.Wording.report` of its text behind
the path. -/
def Site.unparsed (site : Site σ) (text : String) (reason : Toml.Refusal) : Report :=
  .because "Failed to load config"
    ("Failed to parse config file at " ++ site.settingsPath ++ ": " ++ site.wording.report text reason)

/-- Whether a report quotes a text, whole. -/
def Report.Quotes (r : Report) (quoted : String) : Prop :=
  ∃ before after, r.causes = [before ++ quoted ++ after]

/-- Ways to end that look the same. -/
structure Ending.Alike (e e' : Ending) : Prop where
  /-- The exit codes are the same. -/
  code : e.code = e'.code
  /-- The standard output is the same. -/
  shown : e.shown = e'.shown
  /-- The failures are the same. -/
  failure : e.failure = e'.failure

/-- The settings file is in the same place. -/
theorem Site.KeysAside.settingsPath_eq (h : site.KeysAside site') :
    site.settingsPath = site'.settingsPath := by
  rw [settingsPath, settingsPath, settingsDirectory, settingsDirectory, h.home]

/-- How the command ends that shows the settings, `inspect`, whatever the world is. -/
def shownEnding (site : Site σ) : Ending :=
  ⟨if (inspect site).failure.isSome then 1 else 0, (inspect site).shown, (inspect site).failure,
    site.files⟩

/-- A command line that asks for the settings ends as `shownEnding`. -/
theorem program_inspect {arguments : List String} (asked : read arguments = .ok .inspect)
    (site : Site σ) (world : σ) : (program arguments site world).1 = shownEnding site := by
  rw [program, asked]
  rfl

/-! ## Files that are refused -/

/-- The report about a file quotes the line that is at fault, whatever its wording is. -/
theorem Site.unparsed_quotes (site : Site σ) (text : String) (reason : Toml.Refusal) :
    (site.unparsed text reason).Quotes ((site.wording.fault text reason).line text) := by
  refine ⟨"Failed to parse config file at " ++ site.settingsPath ++ ": " ++
    (site.wording.fault text reason).heading text, (site.wording.fault text reason).footing text, ?_⟩
  simp only [unparsed, Report.because, Toml.Wording.report, Toml.Fault.shown, String.append_assoc]

/-- `inspect` shows no settings if their file is refused. -/
theorem inspect_of_refuses (refuses : site.Refuses text reason) :
    inspect site = .failed (site.unparsed text reason) := by
  have failed : site.settings = .error (site.unparsed text reason) := by
    unfold Site.settings
    rw [Settings.load_of_refused refuses site.settingsPath site.env]
    rfl
  rw [inspect, failed]

/-- Two reports about files in one place are the same if the files are worded the same. -/
theorem unparsed_eq_iff (path : site.settingsPath = site'.settingsPath) {text' : String}
    {reason' : Toml.Refusal} : site.unparsed text reason = site'.unparsed text' reason' ↔
      site.wording.report text reason = site'.wording.report text' reason' := by
  unfold Site.unparsed Report.because
  rw [path]
  simp [String.append_right_inj]

/-! ## Files that are read -/

/-- Settings that differ in keys alone count in places that do. -/
theorem Site.KeysAside.settings (h : site.KeysAside site')
    (read : ∀ text reason, ¬ site.Refuses text reason) :
    Except.Related Eq Settings.KeysAside site.settings site'.settings := by
  have loaded := Settings.load_keysAside site.settingsPath h.file h.around read
  unfold Site.settings
  rw [← h.settingsPath_eq, ← h.wording]
  rw [← h.settingsPath_eq] at loaded
  exact loaded.mapError fun e e' same => same ▸ rfl

/-- What is shown in places that differ in keys alone is the same, and so are failures. -/
theorem inspect_eq (h : site.KeysAside site') (read : ∀ text reason, ¬ site.Refuses text reason) :
    inspect site = inspect site' := by
  have loaded := h.settings read
  unfold inspect
  rw [← h.settingsPath_eq, ← h.orders]
  generalize site.settings = here, site'.settings = there at loaded ⊢
  cases loaded with
  | error same => rw [same]
  | ok alike => simp only [Settings.masked_eq_of_keysAside alike]

/-! ## All files -/

/-- **The settings are shown without giving a key away, unless their file is refused.**  In two
places that differ in keys alone, either no file is refused; then the settings are the same with the
keys hidden, and the command ends the same way.  Or both files are refused, for one reason; then the
command fails with a report that quotes the line at fault, and it ends the same way exactly if what
is reported about the two texts is the same. -/
theorem inspect_keysAside {arguments : List String} (asked : read arguments = .ok .inspect)
    (h : site.KeysAside site') (world : σ) (world' : σ') :
    ((∀ text reason, ¬ site.Refuses text reason) ∧ (∀ text reason, ¬ site'.Refuses text reason) ∧
      Except.Related Eq (fun s t => s.masked = t.masked) site.settings site'.settings ∧
      (program arguments site world).1.Alike (program arguments site' world').1) ∨
    ∃ text text' reason, site.Refuses text reason ∧ site'.Refuses text' reason ∧
      (program arguments site world).1 = ⟨1, "", some (site.unparsed text reason), site.files⟩ ∧
      (program arguments site' world').1 = ⟨1, "", some (site'.unparsed text' reason), site'.files⟩ ∧
      (site.unparsed text reason).Quotes ((site.wording.fault text reason).line text) ∧
      (site'.unparsed text' reason).Quotes ((site.wording.fault text' reason).line text') ∧
      ((program arguments site world).1.Alike (program arguments site' world').1 ↔
        site.wording.report text reason = site.wording.report text' reason) := by
  rw [program_inspect asked, program_inspect asked, shownEnding, shownEnding]
  rcases Settings.refused_keysAside h.file with ⟨text, text', reason, refuses, refuses'⟩ | ⟨here, there⟩
  · rw [inspect_of_refuses refuses, inspect_of_refuses refuses']
    refine .inr ⟨text, text', reason, refuses, refuses', rfl, rfl, site.unparsed_quotes text reason,
      h.wording ▸ site'.unparsed_quotes text' reason, ?_⟩
    constructor
    · intro alike
      have same := (unparsed_eq_iff h.settingsPath_eq).mp (Option.some.inj alike.failure)
      rw [same, h.wording]
    · intro same
      refine ⟨rfl, rfl, congrArg some ((unparsed_eq_iff h.settingsPath_eq).mpr ?_)⟩
      rw [same, h.wording]
  · rw [inspect_eq h here]
    refine .inl ⟨here, there, ?_, ⟨rfl, rfl, rfl⟩⟩
    exact (h.settings here).imp fun s t alike => Settings.masked_eq_of_keysAside alike

/-- A place with a settings file and an environment. -/
def placed (content : String) (env : Environment) : Site Unit where
  home := "/home"
  env := env
  files := ⟨"/home", [(["home", ".typeclaw", "config.toml"], Utf8.encode content.toList)]⟩
  transport := .always .silent
  wording := Settings.wording
  orders := .sorted
  runId := "r"

/-- The settings file of `placed content env` is read as `content`. -/
theorem read_placed (content : String) (env : Environment) :
    (placed content env).files.read (placed content env).settingsPath =
      .ofBytes (Utf8.encode content.toList) := by
  have names : (placed content env).files.resolve (placed content env).settingsPath =
      ["home", ".typeclaw", "config.toml"] := by
    show Files.resolve ⟨"/home", []⟩ "/home/.typeclaw/config.toml" = _
    decide +kernel
  have plain : "/home/.typeclaw/config.toml".endsWith "/" = false := by decide +kernel
  have found : (placed content env).files.contents.lookup ["home", ".typeclaw", "config.toml"] =
      some (Utf8.encode content.toList) := rfl
  rw [Files.read]
  simp only [names, found]
  exact if_neg (Bool.eq_false_iff.mp plain)

/-- Places that differ in keys alone, by what is placed there. -/
theorem placed_keysAside {content content' : String} {env env' : Environment}
    {fields others : List (String × Json)} (around : env.KeysAside env')
    (here : FileContent.ofBytes (Utf8.encode content.toList) = .text content)
    (there : FileContent.ofBytes (Utf8.encode content'.toList) = .text content')
    (parsed : Toml.parse content = some fields) (parsed' : Toml.parse content' = some others)
    (members : List.Forall₂ (NameMap.Paired MemberAside) fields others) :
    (placed content env).KeysAside (placed content' env') := by
  refine ⟨rfl, around, ?_, rfl, rfl⟩
  rw [read_placed, read_placed, here, there]
  exact .document parsed parsed' members

/-- A place with a general key and the key of one provider in its file and with a variable that
holds a third key. -/
def guarded (general ofProvider other : String) : Site Unit :=
  placed ("api_key = '" ++ general ++ "'\n[providers.openai]\napi_key = '" ++ ofProvider ++ "'\n")
    fun name => if name = "TYPECLAW_API_KEY" then some other else none

/-- Three keys are replaced by three others, and the settings are shown the same. -/
theorem inspect_keysAside_guarded :
    (program ["config"] (guarded "one" "two" "three") ()).1.code = 0 ∧
    (guarded "one" "two" "three").settings.toOption.map
      (fun s => (s.apiKey, s.providers.map (·.apiKey))) =
        some (some "three", .ofList [("openai", some "two")]) ∧
    (program ["config"] (guarded "one" "two" "three") ()).1.Alike
      (program ["config"] (guarded "uno" "dos" "tres") ()).1 := by
  have asked : read ["config"] = .ok .inspect := by decide +kernel
  have around : (guarded "one" "two" "three").env.KeysAside (guarded "uno" "dos" "tres").env := by
    refine ⟨by decide, fun name other => ?_⟩
    have unset : name ≠ "TYPECLAW_API_KEY" := fun same => other (same ▸ List.mem_cons_self)
    simp only [guarded, placed, if_neg unset]
  have parsed : Toml.parse
      ("api_key = '" ++ "one" ++ "'\n[providers.openai]\napi_key = '" ++ "two" ++ "'\n") =
      some [("api_key", .str "one"),
        ("providers", .obj [("openai", .obj [("api_key", .str "two")])])] := by decide +kernel
  have parsed' : Toml.parse
      ("api_key = '" ++ "uno" ++ "'\n[providers.openai]\napi_key = '" ++ "dos" ++ "'\n") =
      some [("api_key", .str "uno"),
        ("providers", .obj [("openai", .obj [("api_key", .str "dos")])])] := by decide +kernel
  have tables : SectionAside (.obj [("api_key", .str "two")]) (.obj [("api_key", .str "dos")]) :=
    .table (.cons ⟨rfl, .key rfl "two" "dos"⟩ .nil)
  have apart : (guarded "one" "two" "three").KeysAside (guarded "uno" "dos" "tres") :=
    placed_keysAside around (by decide +kernel) (by decide +kernel) parsed parsed'
      (.cons ⟨rfl, .general (.key rfl "one" "uno")⟩
        (.cons ⟨rfl, .sections rfl (.cons ⟨rfl, tables⟩ .nil)⟩ .nil))
  have done : (program ["config"] (guarded "one" "two" "three") ()).1.code = 0 := by decide +kernel
  refine ⟨done, by decide +kernel, ?_⟩
  rcases inspect_keysAside asked apart () () with ⟨-, -, -, alike⟩ | ⟨_, _, _, -, -, failed, -⟩
  · exact alike
  · rw [failed] at done
    cases done

/-- A place whose settings file has a key and, in the same line, a model that is no string. -/
def misfit (key : String) : Site Unit :=
  placed ("providers = \x7b openai = \x7b api_key = \"" ++ key ++ "\", default_model = 5 \x7d \x7d")
    fun _ => none

/-- What is reported there about a key. -/
def misfitCause (key : String) : String :=
  "Failed to parse config file at /home/.typeclaw/config.toml: " ++
    "TOML parse error at line 1, column 60\n  |\n" ++
    "1 | providers = \x7b openai = \x7b api_key = \"" ++ key ++ "\", default_model = 5 \x7d \x7d\n" ++
    "  |                                                            ^\n" ++
    "invalid type: integer `5`, expected a string\n"

/-- **A key is shown if the line that it stands in is at fault.**  Of two places that differ in one
key alone, each reports its own key. -/
theorem inspect_leaks : read ["config"] = .ok .inspect ∧ (misfit "sk-A").KeysAside (misfit "sk-B") ∧
    (program ["config"] (misfit "sk-A") ()).1.failure =
      some (.because "Failed to load config" (misfitCause "sk-A")) ∧
    (program ["config"] (misfit "sk-B") ()).1.failure =
      some (.because "Failed to load config" (misfitCause "sk-B")) ∧
    ¬ (program ["config"] (misfit "sk-A") ()).1.Alike (program ["config"] (misfit "sk-B") ()).1 := by
  have parsed : Toml.parse ("providers = \x7b openai = \x7b api_key = \"" ++ "sk-A" ++
      "\", default_model = 5 \x7d \x7d") = some [("providers", .obj [("openai",
        .obj [("api_key", .str "sk-A"), ("default_model", .ofInt 5)])])] := by decide +kernel
  have parsed' : Toml.parse ("providers = \x7b openai = \x7b api_key = \"" ++ "sk-B" ++
      "\", default_model = 5 \x7d \x7d") = some [("providers", .obj [("openai",
        .obj [("api_key", .str "sk-B"), ("default_model", .ofInt 5)])])] := by decide +kernel
  have tables : SectionAside (.obj [("api_key", .str "sk-A"), ("default_model", .ofInt 5)])
      (.obj [("api_key", .str "sk-B"), ("default_model", .ofInt 5)]) :=
    .table (.cons ⟨rfl, .key rfl "sk-A" "sk-B"⟩ (.cons ⟨rfl, .same _⟩ .nil))
  have apart : (misfit "sk-A").KeysAside (misfit "sk-B") :=
    placed_keysAside ⟨fun _ _ => rfl, fun _ _ => rfl⟩ (by decide +kernel) (by decide +kernel)
      parsed parsed' (.cons ⟨rfl, .sections rfl (.cons ⟨rfl, tables⟩ .nil)⟩ .nil)
  have first : (program ["config"] (misfit "sk-A") ()).1.failure =
      some (.because "Failed to load config" (misfitCause "sk-A")) := by decide +kernel
  have second : (program ["config"] (misfit "sk-B") ()).1.failure =
      some (.because "Failed to load config" (misfitCause "sk-B")) := by decide +kernel
  refine ⟨by decide +kernel, apart, first, second, fun alike => ?_⟩
  have same := first.symm.trans (alike.failure.trans second)
  revert same
  decide +kernel

end Colloquy.Command
