import Colloquy.Agent.Config
import Colloquy.NameMap
import Colloquy.Output.Format

/-! # Settings

What a user can set: the default provider and model, how runs behave, their ceilings, how requests
are sent, and sections for single providers.  Every type has its JSON form, `toJson`, and the
decoder that reads it back, with a standard value for everything that is left out.
`Settings.validate` refuses settings that no run could work with. -/

namespace Colloquy

/-- Settings of runs. -/
structure AgentSettings where
  /-- Most rounds with the model in a run. -/
  maxIterations : UInt32
  /-- Retries of a tool that has no number of its own. -/
  retries : UInt32
  /-- Retries of rejected answers; where absent, `retries` counts. -/
  outputRetries : Option UInt32
  /-- The name of the way in which answers are asked for. -/
  outputMode : String
deriving DecidableEq, Repr

/-- Settings of requests. -/
structure ClientSettings where
  /-- Retries of passing failures. -/
  maxRetries : UInt32
  /-- Seconds for one attempt. -/
  attemptTimeoutSecs : UInt64
  /-- Seconds for all attempts of a request. -/
  totalTimeoutSecs : UInt64
  /-- Header fields of every request. -/
  headers : NameMap String
deriving DecidableEq, Repr

/-- Settings of one provider. -/
structure ProviderSettings where
  /-- The key. -/
  apiKey : Option String
  /-- The address. -/
  apiUrl : Option String
  /-- The model, instead of the general one. -/
  defaultModel : Option String
deriving DecidableEq, Repr

/-- Everything that can be set. -/
structure Settings where
  /-- The key of providers that have none of their own. -/
  apiKey : Option String
  /-- The address of the default provider, before any other. -/
  baseUrl : Option String
  /-- The provider that is used. -/
  defaultProvider : String
  /-- The model that is used. -/
  defaultModel : String
  /-- Randomness of the sampling. -/
  defaultTemperature : Option Single
  /-- Most tokens of a response. -/
  defaultMaxTokens : Option UInt32
  /-- Settings of runs. -/
  agent : AgentSettings
  /-- Ceilings of runs. -/
  limits : UsageLimits
  /-- Settings of requests. -/
  client : ClientSettings
  /-- Settings of single providers. -/
  providers : NameMap ProviderSettings
deriving DecidableEq, Repr

/-! ### Standard values -/

namespace AgentSettings

/-- Ten rounds, one retry, answers in plain text. -/
def standard : AgentSettings := ⟨10, 1, none, "text"⟩

end AgentSettings

namespace ClientSettings

/-- Two retries, a minute for an attempt and five for all. -/
def standard : ClientSettings := ⟨2, 60, 300, .empty⟩

end ClientSettings

namespace ProviderSettings

/-- Nothing set. -/
def standard : ProviderSettings := ⟨none, none, none⟩

end ProviderSettings

namespace Settings

/-- The settings where nothing is set. -/
def standard : Settings where
  apiKey := none
  baseUrl := none
  defaultProvider := "openai"
  defaultModel := "gpt-4o-mini"
  defaultTemperature := none
  defaultMaxTokens := none
  agent := .standard
  limits := .none
  client := .standard
  providers := .empty

end Settings

/-! ### JSON forms -/

/-- The orders in which the maps of settings are gone through when they are shown. -/
structure MapOrders where
  /-- The order of header fields. -/
  headers : NameOrder
  /-- The order of sections. -/
  sections : NameOrder

/-- Every map in the order of its names. -/
def MapOrders.sorted : MapOrders := ⟨.sorted, .sorted⟩

namespace NameMap

variable {α : Type}

/-- The JSON form of a map, `value` being that of what the names stand for. -/
def toJson (o : NameOrder) (value : α → Json) (m : NameMap α) : Json := .obj ((m.map value).listed o)

/-- Reads a map from an object. -/
def ofFields (d : Json.Decoder α) (fields : List (String × Json)) :
    Except Json.Problem (NameMap α) := do
  .ok (ofList (← fields.mapM fun (name, v) => do .ok (name, ← d.ofJson v)))

/-- Reads the JSON form of a map. -/
def decoder (d : Json.Decoder α) : Json.Decoder (NameMap α) where
  read depth s := do
    let (fields, rest) ← Json.Decoder.object.read depth s
    match ofFields d fields with
    | .ok m => .ok (m, rest)
    | .error p => .error ⟨p, rest, 0, true⟩
  ofJson v := do ofFields d (← Json.Decoder.object.ofJson v)

end NameMap

namespace AgentSettings

/-- The JSON form of settings of runs. -/
def toJson (s : AgentSettings) : Json :=
  .obj ([("max_iterations", .ofUInt32 s.maxIterations), ("retries", .ofUInt32 s.retries)] ++
    Json.optional "output_retries" (s.outputRetries.map .ofUInt32) ++
    [("output_mode", .str s.outputMode)])

/-- The fields of settings of runs. -/
def record : Json.Record AgentSettings :=
  Json.Record.make AgentSettings.mk
    |>.orElse "max_iterations" .word standard.maxIterations
    |>.orElse "retries" .word standard.retries
    |>.optional "output_retries" .word
    |>.orElse "output_mode" .string standard.outputMode

end AgentSettings

namespace ClientSettings

/-- The JSON form of settings of requests, with the headers in some order. -/
def toJson (headers : NameOrder) (s : ClientSettings) : Json :=
  .obj ([("max_retries", .ofUInt32 s.maxRetries),
    ("attempt_timeout_secs", .ofInt s.attemptTimeoutSecs.toNat),
    ("total_timeout_secs", .ofInt s.totalTimeoutSecs.toNat)] ++
    (if s.headers.entries.isEmpty then [] else [("headers", s.headers.toJson headers .str)]))

/-- The fields of settings of requests. -/
def record : Json.Record ClientSettings :=
  Json.Record.make ClientSettings.mk
    |>.orElse "max_retries" .word standard.maxRetries
    |>.orElse "attempt_timeout_secs" .longWord standard.attemptTimeoutSecs
    |>.orElse "total_timeout_secs" .longWord standard.totalTimeoutSecs
    |>.orElse "headers" (NameMap.decoder .string) .empty

end ClientSettings

namespace ProviderSettings

/-- The JSON form of settings of a provider. -/
def toJson (s : ProviderSettings) : Json :=
  .obj (Json.optional "api_key" (s.apiKey.map .str) ++
    Json.optional "api_url" (s.apiUrl.map .str) ++
    Json.optional "default_model" (s.defaultModel.map .str))

/-- The fields of settings of a provider. -/
def record : Json.Record ProviderSettings :=
  Json.Record.make ProviderSettings.mk
    |>.optional "api_key" .string
    |>.optional "api_url" .string
    |>.optional "default_model" .string

end ProviderSettings

namespace Settings

/-- The JSON form of settings, with their maps in some orders. -/
def toJson (o : MapOrders) (s : Settings) : Json :=
  .obj (Json.optional "api_key" (s.apiKey.map .str) ++
    Json.optional "base_url" (s.baseUrl.map .str) ++
    [("default_provider", .str s.defaultProvider), ("default_model", .str s.defaultModel)] ++
    Json.optional "default_temperature" (s.defaultTemperature.map .ofSingle) ++
    Json.optional "default_max_tokens" (s.defaultMaxTokens.map .ofUInt32) ++
    [("agent", s.agent.toJson), ("limits", s.limits.toJson), ("client", s.client.toJson o.headers),
      ("providers", s.providers.toJson o.sections ProviderSettings.toJson)])

/-- The fields of settings. -/
def record : Json.Record Settings :=
  Json.Record.make Settings.mk
    |>.optional "api_key" .string
    |>.optional "base_url" .string
    |>.orElse "default_provider" .string standard.defaultProvider
    |>.orElse "default_model" .string standard.defaultModel
    |>.optional "default_temperature" .single
    |>.optional "default_max_tokens" .word
    |>.orElse "agent" (AgentSettings.record.lenientDecoder "struct AgentSettings") .standard
    |>.orElse "limits" (UsageLimits.record.lenientDecoder "struct UsageLimits") .none
    |>.orElse "client" (ClientSettings.record.lenientDecoder "struct ClientConfig") .standard
    |>.orElse "providers"
      (NameMap.decoder (ProviderSettings.record.lenientDecoder "struct ProviderConfig")) .empty

end Settings

/-! ### Usable settings -/

/-- Why settings are refused. -/
inductive InvalidSetting where
  /-- The temperature is out of range. -/
  | temperature
  /-- Runs would have no round. -/
  | maxIterations
  /-- There is no such way to ask for answers. -/
  | outputMode (lower : String)
  /-- Requests would have no time. -/
  | timeouts
deriving DecidableEq, Repr

namespace InvalidSetting

/-- The wording of a refusal. -/
def message : InvalidSetting → String
  | temperature => "default_temperature must be between 0.0 and 2.0"
  | maxIterations => "agent.max_iterations must be at least 1"
  | outputMode lower => OutputMode.unknownMessage lower
  | timeouts => "client timeouts must be greater than zero"

end InvalidSetting

/-- The way of asking for answers that a name in any case stands for; none is plain text. -/
def outputModeOfName (name : String) : Except InvalidSetting (Option OutputMode) :=
  if String.ofList (name.toList.map Char.toLower) = "text" then .ok none
  else
    match OutputMode.ofName name with
    | .ok mode => .ok (some mode)
    | .error lower => .error (.outputMode lower)

namespace Settings

/-- The way in which answers are asked for, `outputModeOfName` of the member `output_mode`. -/
def outputMode (s : Settings) : Except InvalidSetting (Option OutputMode) :=
  outputModeOfName s.agent.outputMode

/-- Refuse settings that no run could work with; the temperature is looked at first, then the
rounds, the output mode and the timeouts. -/
def validate (s : Settings) : Except InvalidSetting Unit := do
  if let some t := s.defaultTemperature then
    unless t.between 0 2 do throw .temperature
  if s.agent.maxIterations = 0 then throw .maxIterations
  let _ ← s.outputMode
  if s.client.attemptTimeoutSecs = 0 ∨ s.client.totalTimeoutSecs = 0 then throw .timeouts

/-- The settings of an agent, from the section `agent` and the general defaults. -/
def agentConfig (s : Settings) : AgentConfig where
  maxIterations := s.agent.maxIterations
  retries := s.agent.retries
  outputRetries := s.agent.outputRetries
  temperature := s.defaultTemperature
  maxTokens := s.defaultMaxTokens

/-- The section of the default provider. -/
def provider? (s : Settings) : Option ProviderSettings := s.providers.get? s.defaultProvider

/-- Whether the default provider has a key, the general one or that of its section. -/
def hasApiKey (s : Settings) : Bool :=
  s.apiKey.isSome || (s.provider?.bind ProviderSettings.apiKey).isSome

end Settings

end Colloquy
