import Colloquy.Output.Format
import Colloquy.Output.Locate
import Colloquy.Schema.Document
import Colloquy.Error

/-! # Structured output

Pulling validated JSON text out of a response message, in each of the three modes.  `none` means
that the model is still at work: it asked for tools and has not answered yet. -/

namespace Colloquy.ResponseFormat

/-- The text `raw` itself, if it is JSON and passes `schema.check`; otherwise it fails as
`schemaValidation`. -/
def validateText (f : ResponseFormat) (raw : String) : Except OutputError String :=
  match Json.ofText raw with
  | .error e => .error (.schemaValidation raw ("invalid JSON: " ++ e.message))
  | .ok v =>
    match f.schema.check v with
    | .error e => .error (.schemaValidation raw e.message)
    | .ok () => .ok raw

/-- Whether a call is one of `outputToolName`. -/
def isOutputCall (c : ToolCall) : Bool := c.name = outputToolName

/-- Names in order of first appearance, each once. -/
def distinct (names : List String) : List String :=
  names.foldl (fun seen name => if seen.contains name then seen else seen ++ [name]) []

/-- The names of the calls other than of the output tool, in order of first appearance. -/
def otherTools (calls : List ToolCall) : List String :=
  distinct ((calls.filter fun c => !isOutputCall c).map ToolCall.name)

/-- The message with its first call, the answer, turned into a last text part. -/
def answered (m : Message) (call : ToolCall) (rest : List ToolCall) : Message :=
  { m with content := m.content ++ [.text call.argumentText], toolCalls := rest }

/-- Take the answer from the arguments of a lone call of the output tool.  Other calls beside it are
`outputToolMisuse`, several of them `multipleOutputCalls`, and no call at all is `toolNotCalled`;
calls of other tools alone leave the answer open. -/
def extractFromTool (f : ResponseFormat) (m : Message) :
    Message × Except OutputError (Option String) :=
  let count := (m.toolCalls.filter isOutputCall).length
  let others := otherTools m.toolCalls
  if count = 0 then
    (m, if others.isEmpty then .error (.toolNotCalled outputToolName) else .ok none)
  else if !others.isEmpty then (m, .error (.outputToolMisuse outputToolName others))
  else if 1 < count then (m, .error (.multipleOutputCalls outputToolName count))
  else
    -- By the counts there is a call, and it is the only one.
    match m.toolCalls with
    | [] => (m, .error (.toolNotCalled outputToolName))
    | call :: rest => (answered m call rest, (f.validateText call.argumentText).map some)

/-- Take the answer from the part of the text that `find` finds, `noContent` if it finds none; with
tool calls the answer is left open. -/
def extractFromText (f : ResponseFormat) (find : List Char → Option (List Char)) (m : Message) :
    Except OutputError (Option String) :=
  if m.hasToolCalls then .ok none
  else
    match find m.text.toList with
    | some raw => (f.validateText (String.ofList raw)).map some
    | none => .error (.noContent m.text)

/-- The whole text without the blanks around it, unless nothing is left. -/
def wholeText (s : List Char) : Option (List Char) :=
  let t := Text.trim s
  if t.isEmpty then none else some t

/-- Pull the answer out of a message in the way of `f.mode`; also the message as it reads
afterwards. -/
def extract (f : ResponseFormat) (m : Message) : Message × Except OutputError (Option String) :=
  match f.mode with
  | .native => (m, f.extractFromText wholeText m)
  | .prompted => (m, f.extractFromText Output.locate m)
  | .tool => f.extractFromTool m

end Colloquy.ResponseFormat
