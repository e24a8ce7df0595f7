import Colloquy.Message

/-! # Tool definitions and results

What the model is told about a tool, and what a tool hands back. -/

namespace Colloquy

/-- What the model is told about a tool. -/
structure ToolDefinition where
  /-- The tool's name. -/
  name : String
  /-- What the tool does. -/
  description : String
  /-- Schema of the arguments. -/
  inputSchema : Json
  /-- Schema of the structured result. -/
  outputSchema : Option Json
deriving Repr

namespace ToolDefinition

/-- The JSON form of a definition. -/
def toJson (d : ToolDefinition) : Json :=
  .obj ([("description", .str d.description), ("input_schema", d.inputSchema),
    ("name", .str d.name)] ++ Json.optional "output_schema" d.outputSchema)

/-- The fields of a definition. -/
def record : Json.Record ToolDefinition :=
  Json.Record.make ToolDefinition.mk
    |>.required "name" .string
    |>.required "description" .string
    |>.required "input_schema" .json
    |>.optional "output_schema" .json

/-- Reads the JSON form of a definition. -/
def decoder : Json.Decoder ToolDefinition := record.decoder "struct ToolDefinition"

end ToolDefinition

/-- What a tool hands back. -/
structure ToolResult where
  /-- What the model is shown. -/
  content : List ContentPart
  /-- The same as data, where the tool has it. -/
  structuredContent : Option Json
  /-- Whether the tool reports a failure. -/
  isError : Bool
deriving Repr

namespace ToolResult

/-- A successful result of plain text. -/
def text (text : String) : ToolResult := ⟨[.text text], none, false⟩

/-- A successful result of a value; its text is the compact JSON. -/
def structured (v : Json) : ToolResult := ⟨[.text v.compact], some v, false⟩

/-- A failure that the model can read and react to. -/
def error (text : String) : ToolResult := ⟨[.text text], none, true⟩

/-- The message that answers a call with this result. -/
def toMessage (r : ToolResult) (toolCallId : String) : Message :=
  ⟨.tool, r.content, [], some toolCallId⟩

/-- The JSON form of a result. -/
def toJson (r : ToolResult) : Json :=
  .obj ([("content", .arr (r.content.map ContentPart.toJson)), ("is_error", .bool r.isError)] ++
    Json.optional "structured_content" r.structuredContent)

/-- The fields of a result. -/
def record : Json.Record ToolResult :=
  Json.Record.make ToolResult.mk
    |>.required "content" (.list ContentPart.decoder)
    |>.optional "structured_content" .json
    |>.orElse "is_error" .bool false

/-- Reads the JSON form of a result. -/
def decoder : Json.Decoder ToolResult := record.decoder "struct ToolResult"

end ToolResult

end Colloquy
