import Colloquy.Command.Arguments

/-! # The commands

The program has two commands: one runs an agent once, the other shows the settings or writes the
standard ones. -/

namespace Colloquy.Command

/-- The program's name. -/
def programName : String := "typeclaw"

/-- The program's version. -/
def programVersion : String := "0.1.0"

/-- How an agent is run once. -/
structure RunArguments where
  /-- The prompt. -/
  prompt : String
  /-- The model, instead of the one that is set. -/
  model : Option String
  /-- The name of the way in which the answer is asked for. -/
  mode : Option String
  /-- The file of the schema that the answer has to match. -/
  schema : Option String
  /-- Whether a single turn is shown while it is generated. -/
  stream : Bool
  /-- Most requests to the model. -/
  requestLimit : Option UInt32
  /-- Most rounds with the model. -/
  maxIterations : Option UInt32
  /-- Whether the whole outcome is shown. -/
  json : Bool
deriving DecidableEq, Repr

/-- What is asked for. -/
inductive Invocation where
  /-- Run an agent once. -/
  | run (a : RunArguments)
  /-- Show the settings. -/
  | inspect
  /-- Write the standard settings, over others if forced. -/
  | init (force : Bool)
deriving DecidableEq, Repr

/-- Any value is acceptable. -/
def anyText (_ : String) : Bool := true

/-- Whether a value is a number of 32 bits. -/
def isWord (s : String) : Bool := (readWord? s).isSome

/-- The level of the program. -/
def programGrammar : Grammar where
  title := programName
  purpose := "TypeClaw: typed, tool-using LLM agents"
  operand := none
  options := [verboseOption, helpOption, versionOption]
  commands := [("run", "Run the agent on a prompt"),
    ("config", "Show the effective configuration"),
    ("help", "Print this message or the help of the given subcommand(s)")]

/-- The level of the command that runs an agent. -/
def runGrammar : Grammar where
  title := programName ++ " run"
  purpose := "Run the agent on a prompt"
  operand := some ("PROMPT", "The prompt to send")
  options := [
    ⟨"model", some 'm', .value "MODEL" anyText, "Model to use (defaults to the configured model)"⟩,
    ⟨"mode", none, .value "MODE" anyText, "Output mode: text, native, tool or prompted"⟩,
    ⟨"schema", none, .value "SCHEMA" (· ≠ ""), "JSON Schema file the answer must conform to"⟩,
    ⟨"stream", none, .flag,
      "Stream a single model turn to stdout as it is generated (no tools)"⟩,
    ⟨"request-limit", none, .value "REQUEST_LIMIT" isWord, "Maximum number of model requests"⟩,
    ⟨"max-iterations", none, .value "MAX_ITERATIONS" isWord, ""⟩,
    ⟨"json", none, .flag, "Print the whole run result as JSON"⟩,
    verboseOption, helpOption]
  commands := []

/-- The level of the command for settings. -/
def settingsGrammar : Grammar where
  title := programName ++ " config"
  purpose := "Show the effective configuration"
  operand := none
  options := [
    ⟨"init", none, .flag, "Write the default configuration file instead"⟩,
    ⟨"force", none, .flag, "Overwrite an existing file with --init"⟩,
    verboseOption, helpOption]
  commands := []

/-- What the arguments of the command that runs an agent ask for. -/
def readRun (arguments : List String) : Except Stop Invocation := do
  let r ← Reading.all runGrammar arguments
  .ok (.run
    { prompt := r.operands.headD ""
      model := r.value? "model"
      mode := r.value? "mode"
      schema := r.value? "schema"
      stream := r.has "stream"
      requestLimit := (r.value? "request-limit").bind readWord?
      maxIterations := (r.value? "max-iterations").bind readWord?
      json := r.has "json" })

/-- What the arguments of the command for settings ask for; force needs something to be forced. -/
def readSettings (arguments : List String) : Except Stop Invocation := do
  let r ← Reading.all settingsGrammar arguments
  if r.has "init" then .ok (.init (r.has "force"))
  else if r.has "force" then .error .misuse
  else .ok .inspect

/-- The help that the words after `help` ask for. -/
def helpFor : List String → Stop
  | [] => .help programGrammar.help
  | ["run"] => .help runGrammar.help
  | ["config"] => .help settingsGrammar.help
  | _ => .misuse

/-- Read arguments up to the command, and then those of the command. -/
def readFrom : Reading → List String → Except Stop Invocation
  | _, [] => .error .misuse
  | r, argument :: rest =>
    if isOption argument || r.ended then do readFrom (← r.step programGrammar argument) rest
    else
      match argument with
      | "run" => readRun rest
      | "config" => readSettings rest
      | "help" => .error (helpFor rest)
      | _ => .error .misuse

/-- What a command line asks for. -/
def read (arguments : List String) : Except Stop Invocation := readFrom .start arguments

end Colloquy.Command
