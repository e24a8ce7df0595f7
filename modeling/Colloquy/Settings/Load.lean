import Colloquy.Settings.Basic
import Colloquy.Text.Utf8
import Colloquy.Toml.Document
import Colloquy.Toml.Fault

/-! # Loading settings

Settings are read from a file, and single ones are then overridden by the environment.  They are
validated both before and after. -/

namespace Colloquy

/-- What is found in the place of a file. -/
inductive FileContent where
  /-- There is no file. -/
  | missing
  /-- There is something that cannot be read as text. -/
  | unreadable (reason : String)
  /-- There is a text. -/
  | text (content : String)
deriving DecidableEq, Repr

namespace FileContent

/-- The content of a file of some bytes. -/
def ofBytes (bytes : List UInt8) : FileContent :=
  match Utf8.decode? bytes with
  | .ok s => .text (String.ofList s)
  | .error _ => .unreadable "stream did not contain valid UTF-8"

end FileContent

/-- What variables are set to. -/
abbrev Environment := String → Option String

/-- The wording of a refusal of settings. -/
def InvalidSetting.refusal (cause : InvalidSetting) : String :=
  "Configuration validation failed: " ++ cause.message

/-- Why there are no settings. -/
inductive SettingsError where
  /-- The file cannot be read. -/
  | unreadable (path reason : String)
  /-- The file's text `content` is no settings. -/
  | malformed (path content : String) (reason : Toml.Refusal)
  /-- The settings are refused. -/
  | invalid (cause : InvalidSetting)
deriving DecidableEq, Repr

namespace SettingsError

/-- The wording of a failure to load settings.  What is said of a text that is no settings is
`Toml.Wording.report`, which quotes the text. -/
def message (w : Toml.Wording) : SettingsError → String
  | unreadable path reason => s!"Failed to read config file at {path}: {reason}"
  | malformed path content reason =>
    s!"Failed to parse config file at {path}: " ++ w.report content reason
  | invalid cause => cause.refusal

end SettingsError

namespace Settings

/-- The settings that a TOML text gives, `Settings.record` of the members that `Toml.parse` finds,
or why it gives none. -/
def ofToml (text : String) : Except Toml.Refusal Settings :=
  match Toml.parse text with
  | none => .error .malformed
  | some fields => (record.ofFields fields).mapError .unsuited

/-- The settings of a file, `ofToml` and then `validate`; where there is none, nothing is set. -/
def ofFile (path : String) : FileContent → Except SettingsError Settings
  | .missing => .ok standard
  | .unreadable reason => .error (.unreadable path reason)
  | .text content => do
    let s ← (ofToml content).mapError (.malformed path content)
    s.validate.mapError .invalid
    .ok s

/-- The key that counts: `TYPECLAW_API_KEY` comes first, then `key`, which is that of the file, then
`OPENAI_API_KEY` and `OPENROUTER_API_KEY`. -/
def overriddenKey (env : Environment) (key : Option String) : Option String :=
  (env "TYPECLAW_API_KEY").or (key.or ((env "OPENAI_API_KEY").or (env "OPENROUTER_API_KEY")))

/-- Let variables override settings: `overriddenKey`, `TYPECLAW_PROVIDER`, `TYPECLAW_MODEL` and
`TYPECLAW_BASE_URL`. -/
def override (env : Environment) (s : Settings) : Settings :=
  { s with
    apiKey := overriddenKey env s.apiKey
    defaultProvider := (env "TYPECLAW_PROVIDER").getD s.defaultProvider
    defaultModel := (env "TYPECLAW_MODEL").getD s.defaultModel
    baseUrl := (env "TYPECLAW_BASE_URL").or s.baseUrl }

/-- The settings of a file and an environment: `ofFile`, `override`, and `validate` once more. -/
def load (path : String) (file : FileContent) (env : Environment) :
    Except SettingsError Settings := do
  let s := (← ofFile path file).override env
  s.validate.mapError .invalid
  .ok s

end Settings

end Colloquy
