import Colloquy.Command.Run
import Colloquy.Http.Offline
import Colloquy.Proofs.Agent.Index
import Colloquy.Settings.Blame

/-! # Loaded settings are usable

The environment overrides four settings, none of which validation looks at, so settings that are
loaded are valid if those of the file are.  Valid settings in turn make for an agent that passes its
own validation.  `Settings.Overridden` says what the environment does, and `Settings.Usable` what
valid settings are good for.  The main statement is `Settings.loaded_usable`. -/

namespace Colloquy

/-! ## Agents -/

/-- `AgentConfig.validate` passes if there are rounds and the temperature is in range. -/
theorem AgentConfig.validate_eq_ok {c : AgentConfig} :
    c.validate = .ok () ↔
      c.maxIterations ≠ 0 ∧ ∀ t, c.temperature = some t → t.between 0 2 = true := by
  rw [validate]
  by_cases idle : c.maxIterations = 0
  · simp [idle]
  · rw [if_neg idle]
    cases c.temperature with
    | none => simp [idle]
    | some t => by_cases range : t.between 0 2 = true <;> simp [idle, range]

namespace Settings

variable {s t : Settings} {env : Environment} {path : String} {file : FileContent}

/-! ## The environment -/

/-- The key that counts in an environment, given the key of the file. -/
inductive CountingKey (env : Environment) : Option String → Option String → Prop where
  /-- The program's own variable comes before everything else. -/
  | own {file : Option String} {key : String} (set : env "TYPECLAW_API_KEY" = some key) :
    CountingKey env file (some key)
  /-- Then comes the file. -/
  | file {key : String} (unset : env "TYPECLAW_API_KEY" = none) :
    CountingKey env (some key) (some key)
  /-- Then comes the variable of one provider. -/
  | openai {key : String} (unset : env "TYPECLAW_API_KEY" = none)
    (set : env "OPENAI_API_KEY" = some key) : CountingKey env none (some key)
  /-- Last comes the variable of another one, which may be unset as well. -/
  | openrouter (unset : env "TYPECLAW_API_KEY" = none) (unset' : env "OPENAI_API_KEY" = none) :
    CountingKey env none (env "OPENROUTER_API_KEY")

/-- What an environment makes of settings. -/
structure Overridden (env : Environment) (s t : Settings) : Prop where
  /-- The key is the one that counts. -/
  key : CountingKey env s.apiKey t.apiKey
  /-- Nothing changes but the key, the general address, and the default provider and model. -/
  frame : t = { s with
    apiKey := t.apiKey
    baseUrl := t.baseUrl
    defaultProvider := t.defaultProvider
    defaultModel := t.defaultModel }
  /-- Doing it again changes nothing. -/
  again : t.override env = t
  /-- Validation finds the same. -/
  verdict : t.validate = s.validate

/-- `overriddenKey` is the key that counts. -/
theorem countingKey_overriddenKey (env : Environment) (key : Option String) :
    CountingKey env key (overriddenKey env key) := by
  rw [overriddenKey]
  cases own : env "TYPECLAW_API_KEY" with
  | some first => exact .own own
  | none =>
    cases key with
    | some key => exact .file own
    | none =>
      cases other : env "OPENAI_API_KEY" with
      | some second => exact .openai own other
      | none => exact .openrouter own other

/-- A variable that overrides something does so once. -/
theorem or_or_or {α : Type} (x y z : Option α) : x.or ((x.or (y.or z)).or z) = x.or (y.or z) := by
  cases x with
  | some => rfl
  | none => rw [Option.none_or, Option.none_or, Option.or_assoc, Option.or_self]

/-- **`override` does what `Overridden` says.** -/
theorem overridden_override (env : Environment) (s : Settings) :
    s.Overridden env (s.override env) := by
  constructor
  case key => exact countingKey_overriddenKey env s.apiKey
  case frame => rfl
  case again =>
    have key : overriddenKey env (overriddenKey env s.apiKey) = overriddenKey env s.apiKey :=
      or_or_or _ _ _
    have general : ∀ x y : Option String, x.or (x.or y) = x.or y := by
      intro x y
      rw [← Option.or_assoc, Option.or_self]
    have default : ∀ (x : Option String) (y : String), x.getD (x.getD y) = x.getD y := by
      intro x y
      cases x <;> rfl
    simp only [override, key, general, default]
  case verdict => rfl

/-! ## Validation -/

/-- What `validate` looks at besides the temperature. -/
theorem validate_others (s : Settings) :
    (do
      if s.agent.maxIterations = 0 then throw .maxIterations
      let _ ← s.outputMode
      if s.client.attemptTimeoutSecs = 0 ∨ s.client.totalTimeoutSecs = 0 then throw .timeouts :
      Except InvalidSetting Unit) = .ok () ↔
    s.agent.maxIterations ≠ 0 ∧ (∃ mode, s.outputMode = .ok mode) ∧
      s.client.attemptTimeoutSecs ≠ 0 ∧ s.client.totalTimeoutSecs ≠ 0 := by
  by_cases idle : s.agent.maxIterations = 0
  · rw [if_pos idle]
    exact iff_of_false nofun fun h => h.1 idle
  · rw [if_neg idle, and_iff_right idle]
    cases s.outputMode with
    | error cause => exact iff_of_false nofun fun ⟨⟨_, known⟩, _⟩ => nomatch known
    | ok mode =>
      have known : ∃ m, (.ok mode : Except InvalidSetting (Option OutputMode)) = .ok m :=
        ⟨mode, rfl⟩
      rw [and_iff_right known]
      by_cases late : s.client.attemptTimeoutSecs = 0 ∨ s.client.totalTimeoutSecs = 0
      · rw [← not_or]
        refine iff_of_false (fun passed => ?_) fun h => h late
        simp only [if_pos late] at passed
        cases passed
      · rw [← not_or]
        refine iff_of_true ?_ late
        simp only [if_neg late]
        rfl

/-- **`Settings.validate` passes** if those of an agent are usable, the mode is known and there is
time. -/
theorem validate_eq_ok : s.validate = .ok () ↔
    s.agentConfig.validate = .ok () ∧ (∃ mode, s.outputMode = .ok mode) ∧
      s.client.attemptTimeoutSecs ≠ 0 ∧ s.client.totalTimeoutSecs ≠ 0 := by
  rw [AgentConfig.validate_eq_ok, agentConfig, validate]
  split
  · next t given =>
    simp only [given, Option.some.injEq, forall_eq']
    by_cases range : t.between 0 2 = true
    · rw [if_pos range]
      exact (validate_others s).trans (by simp [range])
    · rw [if_neg range]
      exact iff_of_false nofun fun h => range h.1.2
  · next absent =>
    refine (validate_others s).trans (and_congr_left fun _ => ?_)
    exact (and_iff_left fun t given => absurd given (absent t)).symm

/-- What `ofFile` gives is valid. -/
theorem validate_of_ofFile (h : ofFile path file = .ok s) : s.validate = .ok () := by
  cases file with
  | missing =>
    obtain rfl := Except.ok.inj h
    decide
  | unreadable reason => cases h
  | text content =>
    obtain ⟨t, -, h⟩ := Except.bind_eq_ok.mp h
    obtain ⟨⟨⟩, valid, same⟩ := Except.bind_eq_ok.mp h
    obtain rfl := Except.ok.inj same
    exact Except.mapError_eq_ok.mp valid

/-- **`load` succeeds if the file alone gives settings**, and otherwise fail to as those do. -/
theorem load_eq (path : String) (file : FileContent) (env : Environment) :
    load path file env = (ofFile path file).map (override env) := by
  rw [load]
  cases read : ofFile path file with
  | error e => rfl
  | ok s =>
    have valid : (s.override env).validate = .ok () :=
      (overridden_override env s).verdict.trans (validate_of_ofFile read)
    change ((s.override env).validate.mapError _ >>= _) = _
    rw [valid]
    rfl

/-! ## Use -/

/-- What valid settings are good for. -/
structure Usable (s : Settings) : Prop where
  /-- The settings of an agent pass their own validation. -/
  config : s.agentConfig.validate = .ok ()
  /-- The mode is known. -/
  mode : ∃ mode, s.outputMode = .ok mode
  /-- The agent that commands run can be built, whatever it answers with. -/
  agent : ∀ {σ : Type} (p : Provider σ) (model : String) (format : Option ResponseFormat),
    (Command.agentOf p model s.agentConfig format).validate = .ok ()

/-- **Valid settings are usable.** -/
theorem usable_of_validate (valid : s.validate = .ok ()) : s.Usable := by
  obtain ⟨config, mode, -⟩ := validate_eq_ok.mp valid
  refine ⟨config, mode, fun p model format => Agent.validate_eq_ok.mpr ⟨config, ?_⟩⟩
  -- The calculator is the only tool.
  change Agent.WellNamed [Calculator.toolName]
  exact ⟨by decide, List.nodup_singleton _⟩

end Settings

namespace Command

variable {σ : Type} {a : RunArguments} {site : Site σ} {known : RunPlan}

/-- What is told of a run that has ended. -/
def Outcome.ofRun (json : Bool) : Except Error (RunResult Json) → Outcome
  | .error e => .failed (.ofError e)
  | .ok r => .done (resultText json r)

/-- `runAgent` runs an agent that can be used. -/
theorem runAgent_of_validate {agent : Agent Unit σ Json} (valid : agent.validate = .ok ())
    (options : RunOptions) (runId : String) (json : Bool) (world : σ) :
    runAgent agent options runId json world =
      (.ofRun json (agent.run () runId options false world).1,
        (agent.run () runId options false world).2.world) := by
  rw [runAgent, valid]
  simp only
  split
  · next ended => rw [ended, Outcome.ofRun]
  · next ended => rw [ended, Outcome.ofRun]

/-- The settings of `plan` are those of `Settings.load`. -/
theorem settings_of_plan (planned : plan a site = .ok known) :
    site.settings = .ok known.settings := by
  rw [plan] at planned
  obtain ⟨settings, loaded, planned⟩ := Except.bind_eq_ok.mp planned
  obtain ⟨format, -, planned⟩ := Except.bind_eq_ok.mp planned
  obtain ⟨registry, -, planned⟩ := Except.bind_eq_ok.mp planned
  obtain ⟨endpoint, -, planned⟩ := Except.bind_eq_ok.mp planned
  obtain rfl := Except.ok.inj planned
  exact loaded

/-- The agent that is planned for. -/
def RunPlan.agent (known : RunPlan) (site : Site σ) : Agent Unit σ Json :=
  agentOf (known.endpoint.provider site.transport) known.model known.settings.agentConfig
    known.format

/-- **A command that sets no number of rounds itself runs the agent that is planned for**, if that
can be used. -/
theorem run_of_plan (planned : plan a site = .ok known) (whole : a.stream = false)
    (rounds : a.maxIterations = none) (valid : (known.agent site).validate = .ok ()) :
    ∃ options : RunOptions, ∀ world, run a site world =
      (.ofRun a.json ((known.agent site).run () site.runId options false world).1,
        ((known.agent site).run () site.runId options false world).2.world) := by
  refine ⟨{ RunOptions.ofPrompt a.prompt with
    limits := { known.settings.limits with
      requestLimit := a.requestLimit.getD known.settings.limits.requestLimit } }, fun world => ?_⟩
  rw [← runAgent_of_validate valid, run, planned]
  simp only [whole, rounds, Option.getD_none]
  rfl

end Command

namespace Settings

/-- What `load` gives is valid. -/
theorem validate_of_load (loaded : load path file env = .ok s) : s.validate = .ok () := by
  rw [load_eq] at loaded
  obtain ⟨t, read, rfl⟩ := Except.map_eq_ok.mp loaded
  exact (overridden_override env t).verdict.trans (validate_of_ofFile read)

/-- **Settings that are loaded are usable.**  The environment changes nothing that validation looks
at, so loading fails validation exactly if the file does.  Settings that pass it make for an agent
that can be built, so that a command which sets no number of rounds itself runs that agent. -/
theorem loaded_usable :
    (∀ (env : Environment) (s : Settings), s.Overridden env (s.override env)) ∧
    (∀ path file env, load path file env = (ofFile path file).map (override env) ∧
      (∀ cause, load path file env = .error (.invalid cause) ↔
        ofFile path file = .error (.invalid cause)) ∧
      ∀ s, load path file env = .ok s → s.validate = .ok ()) ∧
    (∀ s : Settings, s.validate = .ok () → s.Usable) ∧
    ∀ {σ : Type} (a : Command.RunArguments) (site : Command.Site σ) (known : Command.RunPlan),
      Command.plan a site = .ok known → a.stream = false → a.maxIterations = none →
        (known.agent site).validate = .ok () ∧
        ∃ options : RunOptions, ∀ world, Command.run a site world =
          (.ofRun a.json ((known.agent site).run () site.runId options false world).1,
            ((known.agent site).run () site.runId options false world).2.world) := by
  refine ⟨overridden_override, fun path file env => ⟨load_eq path file env, fun cause => ?_,
    fun s => validate_of_load⟩, fun s => usable_of_validate, ?_⟩
  · rw [load_eq]
    cases ofFile path file with
    | error e => exact Iff.rfl
    | ok s => exact iff_of_false nofun nofun
  · intro σ a site known planned whole rounds
    have loaded := Except.mapError_eq_ok.mp (Command.settings_of_plan planned)
    have usable := usable_of_validate (validate_of_load loaded)
    have valid : (known.agent site).validate = .ok () := usable.agent _ _ _
    exact ⟨valid, Command.run_of_plan planned whole rounds valid⟩

/-- A place with a settings file, two keys and a model in the environment, and no network. -/
def furnished : Command.Site Unit where
  home := "/home"
  env
    | "OPENAI_API_KEY" => some "second"
    | "OPENROUTER_API_KEY" => some "third"
    | "TYPECLAW_MODEL" => some "small"
    | _ => none
  files := ⟨"/home", [(["home", ".typeclaw", "config.toml"],
    Utf8.encode "default_temperature = 1.5\n[agent]\noutput_mode = 'Prompted'\n".toList)]⟩
  transport := .always .silent
  wording := Settings.wording
  orders := .sorted
  runId := "r"

/-- A question with no further arguments. -/
def plain : Command.RunArguments := ⟨"q", none, none, none, false, none, none, false⟩

/-- A question is planned with the settings of the file and the environment, and an agent is run. -/
theorem loaded_usable_furnished : ∃ known, Command.plan plain furnished = .ok known ∧
    (known.model, known.settings.apiKey, known.settings.agent.outputMode) =
      ("small", some "second", "Prompted") ∧
    known.settings.validate = .ok () ∧ known.settings.Usable ∧
    (known.agent furnished).validate = .ok () ∧
    ∃ options : RunOptions, ∀ world, Command.run plain furnished world =
      (.ofRun false ((known.agent furnished).run () "r" options false world).1,
        ((known.agent furnished).run () "r" options false world).2.world) := by
  have shape : (Command.plan plain furnished).toOption.map (fun known =>
      (known.model, known.settings.apiKey, known.settings.agent.outputMode)) =
      some ("small", some "second", "Prompted") := by decide +kernel
  obtain ⟨-, loads, uses, plans⟩ := loaded_usable
  cases planned : Command.plan plain furnished with
  | error r =>
    rw [planned] at shape
    cases shape
  | ok known =>
    rw [planned] at shape
    have loaded := Except.mapError_eq_ok.mp (Command.settings_of_plan planned)
    have valid := (loads _ _ _).2.2 known.settings loaded
    exact ⟨known, rfl, Option.some.inj shape, valid, uses _ valid,
      plans plain furnished known planned rfl rfl⟩

end Settings

end Colloquy
