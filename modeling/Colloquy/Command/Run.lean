import Colloquy.Agent.Run
import Colloquy.Calculator.Tool
import Colloquy.Command.Files
import Colloquy.Command.Grammar
import Colloquy.Command.Report
import Colloquy.Schema.Document
import Colloquy.Settings.Endpoints

/-! # Running an agent from the command line

The answer's format is worked out of the arguments and the settings.  Then either an agent with the
calculator is run and its answer shown, or a single turn is shown while it is generated. -/

namespace Colloquy.Command

/-- Where a command is carried out. -/
structure Site (σ : Type) where
  /-- The user's home. -/
  home : String
  /-- The variables. -/
  env : Environment
  /-- The files. -/
  files : Files
  /-- The network. -/
  transport : Http.Transport σ
  /-- What is said of a settings file that is no settings. -/
  wording : Toml.Wording
  /-- The orders in which the maps of settings are shown. -/
  orders : MapOrders
  /-- An identifier for a run. -/
  runId : String

namespace Site

variable {σ : Type}

/-- The directory of the settings file. -/
def settingsDirectory (s : Site σ) : String := s.home ++ "/.typeclaw"

/-- The path of the settings file. -/
def settingsPath (s : Site σ) : String := s.settingsDirectory ++ "/config.toml"

/-- The settings that count here, `Settings.load` of `settingsPath`. -/
def settings (s : Site σ) : Except Report Settings :=
  (Settings.load s.settingsPath (s.files.read s.settingsPath) s.env).mapError fun e =>
    .because "Failed to load config" (e.message s.wording)

end Site

/-! ### The format of the answer -/

/-- The last name of a path without its ending. -/
def stem? (path : String) : Option String :=
  match ((Text.parts '/' path).filter fun name => name ≠ "" ∧ name ≠ ".").getLast? with
  | none | some ".." => none
  | some name =>
    match (Text.parts '.' name).dropLast with
    | [] | [""] => some name
    | parts => some (String.intercalate "." parts)

/-- The schema of a file, `Schema.ofDocument`, and a name for it: its `title`, or else `stem?` of
the path. -/
def loadSchema (files : Files) (path : String) : Except Report (String × Schema) :=
  let unread (reason : String) : Except Report (String × Schema) :=
    .error (.because ("Failed to read schema " ++ path) reason)
  match files.read path with
  | .missing => unread "No such file or directory (os error 2)"
  | .unreadable reason => unread reason
  | .text content =>
    match Json.ofText content with
    | .error e => .error (.because s!"Schema {path} is not valid JSON" e.message)
    | .ok document =>
      match Schema.ofDocument document with
      | .error e => .error (.because ("Invalid schema " ++ path) e.message)
      | .ok schema =>
        let title := (document.field? "title").bind Json.asString?
        .ok ((title.or (stem? path)).getD "output", schema)

/-- The wording for settings that are refused. -/
def refusal (cause : InvalidSetting) : Report := .ofText cause.refusal

/-- The format of the answer, if it is to be structured.  A `--mode` other than `text` takes a
`--schema`, and a schema excludes `--mode text`; the mode that is set counts only if there is a
schema. -/
def answerFormat (a : RunArguments) (settings : Settings) (files : Files) :
    Except Report (Option ResponseFormat) := do
  let mode ← match a.mode with
    | some name => (outputModeOfName name).mapError refusal
    | none => settings.outputMode.mapError refusal
  match a.schema, a.mode, mode with
  | none, some name, some _ => .error (.ofText s!"--mode {name} requires --schema <file>")
  | none, _, _ => .ok none
  | some _, some _, none => .error (.ofText "--schema cannot be combined with --mode text")
  | some path, _, mode => do
    let (name, schema) ← loadSchema files path
    .ok (some ⟨mode.getD .tool, name, "", schema⟩)

/-! ### Answers -/

/-- The instructions. -/
def instructions : String :=
  "You are a precise assistant. Use the calculator tool for any arithmetic " ++
    "instead of computing it yourself."

/-- The text that a chunk adds to the first choice. -/
def deltaText (chunk : StreamChunk) : String :=
  String.join ((chunk.choices.filter (·.index = 0)).filterMap fun c => c.delta.content)

/-- What is shown of a streamed turn: `deltaText` of the chunks as it comes; an answer that comes
without any text is shown at the end. -/
def turnText (chunks : List StreamChunk) (response : ChatResponse) : String :=
  let text := String.join (chunks.map deltaText)
  if text ≠ "" then text ++ "\n"
  else
    match response.first?.bind Choice.structuredContent with
    | some answer => answer ++ "\n"
    | none => ""

/-- The request for a single turn. -/
def turnRequest (model prompt : String) (settings : Settings) (format : Option ResponseFormat) :
    ChatRequest :=
  { ChatRequest.new model [.user prompt] with
    systemPrompt := some instructions
    temperature := settings.defaultTemperature
    maxTokens := settings.defaultMaxTokens
    responseFormat := format }

/-- What a command shows, and why it has failed if it has. -/
structure Outcome where
  /-- The standard output. -/
  shown : String
  /-- The failure. -/
  failure : Option Report
deriving DecidableEq, Repr

namespace Outcome

/-- A failure with nothing shown. -/
def failed (r : Report) : Outcome := ⟨"", some r⟩

/-- A success. -/
def done (shown : String) : Outcome := ⟨shown, none⟩

end Outcome

variable {σ : Type}

/-- Show a single turn while it is generated, by `Client.chatStream`: `turnText`, or the text before
a failure. -/
def streamTurn (p : Provider σ) (request : ChatRequest) (world : σ) : Outcome × σ :=
  match Client.chatStream p request world with
  | ((chunks, .error e), world) =>
    (⟨String.join (chunks.map deltaText), some (.ofError e)⟩, world)
  | ((chunks, .ok response), world) => (.done (turnText chunks response), world)

/-- The agent that is run: it has `instructions` and the calculator, and answers in `format`. -/
def agentOf (p : Provider σ) (model : String) (config : AgentConfig)
    (format : Option ResponseFormat) : Agent Unit σ Json where
  complete := p.uninterrupted
  model := model
  systemPrompts := [.fixed instructions]
  tools := [.external Calculator.definition fun arguments world =>
    (.ended (Calculator.execute arguments), world)]
  config := config
  toolChoice := none
  answer :=
    match format with
    | none => .text .str
    | some format => .structured format Json.Decoder.json.ofText

/-- What is shown of a run: everything with `--json`, and otherwise the answer alone. -/
def resultText (json : Bool) (r : RunResult Json) : String :=
  if json then (r.toJson id).indented ++ "\n"
  else
    match r.output with
    | .str text => text ++ "\n"
    | v => v.indented ++ "\n"

/-- Run an agent that passes `Agent.validate`, and show its answer by `resultText`. -/
def runAgent (a : Agent Unit σ Json) (options : RunOptions) (runId : String) (json : Bool)
    (world : σ) : Outcome × σ :=
  match a.validate with
  | .error e => (.failed (.ofError e), world)
  | .ok () =>
    match a.run () runId options false world with
    | (.error e, progress) => (.failed (.ofError e), progress.world)
    | (.ok r, progress) => (.done (resultText json r), progress.world)

/-- What has to be known before anything is sent. -/
structure RunPlan where
  /-- The settings. -/
  settings : Settings
  /-- The format of the answer. -/
  format : Option ResponseFormat
  /-- The provider's endpoint. -/
  endpoint : Wire.Endpoint
  /-- The model. -/
  model : String

/-- Work out what has to be known: `Site.settings`, `answerFormat`, the default endpoint of
`Settings.registry`, and the model, which is that of the arguments, of the provider's section, or
the general one. -/
def plan (a : RunArguments) (site : Site σ) : Except Report RunPlan := do
  let settings ← site.settings
  let format ← answerFormat a settings site.files
  let provider (e : ProviderError) : Report := .ofText e.message
  let registry ← settings.registry.mapError provider
  let endpoint ← registry.default.mapError provider
  let section? := settings.provider?.bind ProviderSettings.defaultModel
  .ok ⟨settings, format, endpoint, (a.model.or section?).getD settings.defaultModel⟩

/-- Carry out the command `run`: `streamTurn` with `--stream`, and otherwise `runAgent`. -/
def run (a : RunArguments) (site : Site σ) (world : σ) : Outcome × σ :=
  match plan a site with
  | .error r => (.failed r, world)
  | .ok p =>
    let provider := p.endpoint.provider site.transport
    if a.stream then
      streamTurn provider (turnRequest p.model a.prompt p.settings p.format) world
    else
      let standard := p.settings.agentConfig
      let config := { standard with maxIterations := a.maxIterations.getD standard.maxIterations }
      let limits := p.settings.limits
      let options := { RunOptions.ofPrompt a.prompt with
        limits := { limits with requestLimit := a.requestLimit.getD limits.requestLimit } }
      runAgent (agentOf provider p.model config p.format) options site.runId a.json world

end Colloquy.Command
