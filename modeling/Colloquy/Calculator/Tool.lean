import Colloquy.Calculator.Evaluate
import Colloquy.Error
import Colloquy.Tool.Definition

/-! # The calculator tool

Arithmetic on offer to a model.  A malformed expression asks the model to try again; an expression
without a finite value is a result that reports the failure. -/

namespace Colloquy.Calculator

/-- The tool's name. -/
def toolName : String := "calculator"

/-- Schema of the tool's arguments. -/
def inputSchema : Json :=
  .object [("type", .str "object"),
    ("properties", .object [("expression", .object [("type", .str "string"),
      ("description", .str "The expression to evaluate, e.g. '(2 + 3) * 4'")])]),
    ("required", .arr [.str "expression"])]

/-- Schema of the tool's structured result. -/
def outputSchema : Json :=
  .object [("type", .str "object"),
    ("properties", .object [("result", .object [("type", .str "number")])]),
    ("required", .arr [.str "result"])]

/-- What the model is told about the tool. -/
def definition : ToolDefinition where
  name := toolName
  description :=
    "Evaluate an arithmetic expression. Supports + - * / % ^, parentheses and decimal numbers."
  inputSchema := inputSchema
  outputSchema := some outputSchema

/-- The feedback for a malformed expression. -/
def retryText (expression : String) (cause : SyntaxError) : String :=
  "Could not parse '" ++ expression ++ "': " ++ cause.message ++
    ". Use only numbers, + - * / % ^ and parentheses."

/-- Run the tool: `evaluate .double` of the argument `expression`.  A malformed expression is a wish
for a retry, and a missing value a `ToolResult.error`. -/
def execute (arguments : List (String × Json)) : Except ToolError ToolResult :=
  match (Json.lookup "expression" arguments).bind Json.asString? with
  | none => .error (.invalidArguments "Missing 'expression' argument")
  | some expression =>
    match evaluate .double expression.toList with
    | .ok x => .ok (.structured (.obj [("result", .ofDouble x)]))
    | .error (.malformed cause) => .error (.retry ⟨retryText expression cause⟩)
    | .error (.math cause) => .ok (.error ("Error: " ++ cause.message))

end Colloquy.Calculator
