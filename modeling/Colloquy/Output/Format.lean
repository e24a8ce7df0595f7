import Colloquy.Schema.Basic
import Colloquy.Tool.Definition
import Colloquy.Text.Blank

/-! # Response formats

The shape wanted of a final answer, and one of three ways to ask the model for it: the provider
enforces the schema, a hidden tool carries the answer as its arguments, or the schema is part of the
instructions. -/

namespace Colloquy

/-- How structured output is asked for. -/
inductive OutputMode where
  /-- The provider enforces the schema; the answer is the message's text. -/
  | native
  /-- A hidden tool carries the answer as its arguments. -/
  | tool
  /-- The instructions hold the schema; the answer is found in the message's text. -/
  | prompted
deriving DecidableEq, Repr

namespace OutputMode

/-- The written form of a mode. -/
def name : OutputMode → String
  | native => "native"
  | tool => "tool"
  | prompted => "prompted"

/-- The JSON form of a mode. -/
def toJson (m : OutputMode) : Json := .str m.name

/-- Reads the JSON form of a mode. -/
def decoder : Json.Decoder OutputMode :=
  .names [("native", native), ("tool", tool), ("prompted", prompted)]

/-- The mode of a name in any case; other names come back in lower case. -/
def ofName (text : String) : Except String OutputMode :=
  let lower := String.ofList (text.toList.map Char.toLower)
  if lower = "native" then .ok native
  else if lower = "tool" then .ok tool
  else if lower = "prompted" then .ok prompted
  else .error lower

/-- The wording for a name that is no mode. -/
def unknownMessage (lower : String) : String := "unknown response format mode: " ++ lower

end OutputMode

/-- The shape wanted of a final answer. -/
structure ResponseFormat where
  /-- How the answer is asked for. -/
  mode : OutputMode
  /-- A name for the shape. -/
  name : String
  /-- A description for the model. -/
  description : String
  /-- The schema of the answer. -/
  schema : Schema
deriving Repr

namespace ResponseFormat

/-- The name of the hidden tool. -/
def outputToolName : String := "_output"

/-- The description of the hidden tool where the format has none. -/
def defaultDescription : String :=
  "Structured output tool. Call this tool with your final answer. " ++
    "NEVER call other tools in the same response."

/-- The hidden tool that carries the answer: it is named `outputToolName`, and its arguments have
the schema of the format. -/
def outputTool (f : ResponseFormat) : ToolDefinition where
  name := outputToolName
  description :=
    (if f.name = "" then "" else f.name ++ ": ") ++
      (if f.description = "" then defaultDescription else f.description)
  inputSchema := f.schema.document
  outputSchema := none

/-- The instruction that is appended to the system prompt; it ends in the compact text of the
schema. -/
def promptedSuffix (f : ResponseFormat) : String :=
  "\n\nYou must respond with valid JSON matching this schema. " ++
    "Do not include any other text, only the JSON object.\n\nSchema:\n" ++ f.schema.document.compact

/-- The instruction where there is no system prompt to append it to: `promptedSuffix` without the
blanks at its start. -/
def promptedAlone (f : ResponseFormat) : String :=
  String.ofList (Text.trimStart f.promptedSuffix.toList)

/-- The JSON form of a format. -/
def toJson (f : ResponseFormat) : Json :=
  .obj [("description", .str f.description), ("mode", f.mode.toJson), ("name", .str f.name),
    ("schema", f.schema.document)]

end ResponseFormat

end Colloquy
