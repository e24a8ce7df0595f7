import Colloquy.Settings.Basic
import Colloquy.Text.Quoted
import Colloquy.Toml.Print

/-! # Showing settings

Settings are shown as the text of a settings file, or on one line for diagnostics.  The line never
shows a key, and `Settings.masked` hides the keys from the text. -/

namespace Colloquy

/-! ### Lines for diagnostics -/

/-- A record on one line. -/
def Text.recordLine (name : String) (fields : List (String × String)) : String :=
  name ++ " \x7b " ++ String.intercalate ", " (fields.map fun f => f.1 ++ ": " ++ f.2) ++ " \x7d"

/-- An optional value on one line. -/
def Text.optionLine : Option String → String
  | some text => "Some(" ++ text ++ ")"
  | none => "None"

/-- A map on one line, in some order. -/
def NameMap.line {α : Type} (o : NameOrder) (value : α → String) (m : NameMap α) : String :=
  "\x7b" ++ String.intercalate ", "
    ((m.listed o).map fun e => Text.quoted e.1 ++ ": " ++ value e.2) ++ "\x7d"

/-- Singles in diagnostics have an exponent below `0.0001` and from ten to the sixteenth on. -/
def diagnosticStyle : DecimalStyle := ⟨-4, 15, false, true⟩

/-- What stands for a secret. -/
def redacted : String := "[REDACTED]"

/-- Whether there is a key, on one line: `redacted`, or `None`. -/
def keyLine (key : Option String) : String := Text.quoted (if key.isSome then redacted else "None")

/-- A word of 32 bits on one line. -/
def wordLine (n : UInt32) : String := toString n.toNat

/-- Settings of runs on one line. -/
def AgentSettings.line (s : AgentSettings) : String :=
  Text.recordLine "AgentSettings" [("max_iterations", wordLine s.maxIterations),
    ("retries", wordLine s.retries),
    ("output_retries", Text.optionLine (s.outputRetries.map wordLine)),
    ("output_mode", Text.quoted s.outputMode)]

/-- Ceilings on one line. -/
def UsageLimits.line (l : UsageLimits) : String :=
  Text.recordLine "UsageLimits" [("request_limit", wordLine l.requestLimit),
    ("completion_tokens_limit", wordLine l.completionTokensLimit),
    ("tool_calls_limit", wordLine l.toolCallsLimit)]

/-- Settings of requests on one line. -/
def ClientSettings.line (headers : NameOrder) (s : ClientSettings) : String :=
  Text.recordLine "ClientConfig" [("max_retries", wordLine s.maxRetries),
    ("attempt_timeout_secs", toString s.attemptTimeoutSecs.toNat),
    ("total_timeout_secs", toString s.totalTimeoutSecs.toNat),
    ("headers", s.headers.line headers Text.quoted)]

/-- Settings of a provider on one line. -/
def ProviderSettings.line (s : ProviderSettings) : String :=
  Text.recordLine "ProviderConfig" [("api_key", keyLine s.apiKey),
    ("api_url", Text.optionLine (s.apiUrl.map Text.quoted)),
    ("default_model", Text.optionLine (s.defaultModel.map Text.quoted))]

namespace Settings

/-- Settings on one line, with their maps in some orders. -/
def line (o : MapOrders) (s : Settings) : String :=
  Text.recordLine "AppConfig" [("api_key", keyLine s.apiKey),
    ("base_url", Text.optionLine (s.baseUrl.map Text.quoted)),
    ("default_provider", Text.quoted s.defaultProvider),
    ("default_model", Text.quoted s.defaultModel),
    ("default_temperature",
      Text.optionLine (s.defaultTemperature.map (Single.render diagnosticStyle))),
    ("default_max_tokens", Text.optionLine (s.defaultMaxTokens.map wordLine)),
    ("agent", s.agent.line), ("limits", s.limits.line), ("client", s.client.line o.headers),
    ("providers", s.providers.line o.sections ProviderSettings.line)]

/-! ### Files -/

/-- The text of a settings file, `Toml.print` of `Settings.toJson`, with the maps in some orders. -/
def toToml (o : MapOrders) (s : Settings) : String := Toml.print (s.toJson o)

/-- The text of the settings file where nothing is set; the maps have no entries to order. -/
def standardToml : String := standard.toToml .sorted

/-- A key with its value hidden, `some redacted` in place of `some key`. -/
def maskKey (key : Option String) : Option String := key.map fun _ => redacted

/-- Settings with the values of all keys hidden: `maskKey` of the general one and of that of every
section. -/
def masked (s : Settings) : Settings :=
  { s with
    apiKey := maskKey s.apiKey
    providers := s.providers.map fun p => { p with apiKey := maskKey p.apiKey } }

end Settings

end Colloquy
