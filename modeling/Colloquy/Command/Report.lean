import Colloquy.Error

/-! # Reports of failures

A failure is reported by its message and the messages of its causes, outermost first. -/

namespace Colloquy.Command

/-- What is told about a failure. -/
structure Report where
  /-- The message. -/
  message : String
  /-- The messages of the causes. -/
  causes : List String
deriving DecidableEq, Repr

namespace Report

/-- A failure without causes. -/
def ofText (message : String) : Report := ⟨message, []⟩

/-- A failure that another one has caused. -/
def because (message cause : String) : Report := ⟨message, [cause]⟩

/-- The causes of a run's failure. -/
def runCauses : RunError → List String
  | .outputRetriesExceeded _ source => [source.message]
  | _ => []

/-- The causes of a tool's failure. -/
def toolCauses : ToolError → List String
  | .retry r => [r.message]
  | _ => []

/-- The causes of any failure. -/
def causesOf : Error → List String
  | .provider e => [e.message]
  | .tool e => e.message :: toolCauses e
  | .schema e => [e.message]
  | .output e => [e.message]
  | .stream e => [e.message]
  | .run e => e.message :: runCauses e
  | .serialization e => [e.message]
  | .config _ => []
  | .internal _ => []

/-- What is told about any failure. -/
def ofError (e : Error) : Report := ⟨e.message, causesOf e⟩

/-- A number, right-aligned in five columns. -/
def columnNumber (n : Nat) : String :=
  let text := toString n
  "".pushn ' ' (5 - text.length) ++ text

/-- A cause, which is numbered if there are several; further lines of it are set in. -/
def causeText (number : Option Nat) (cause : String) : String :=
  let margin := match number with
    | some n => columnNumber n ++ ": "
    | none => "    "
  "\n" ++ margin ++ cause.replace "\n" ("\n" ++ "".pushn ' ' (if number.isSome then 7 else 4))

/-- The text of a report. -/
def text (r : Report) : String :=
  "Error: " ++ r.message ++
    (match r.causes with
      | [] => ""
      | [cause] => "\n\nCaused by:" ++ causeText none cause
      | causes => "\n\nCaused by:" ++
        String.join (causes.zipIdx.map fun c => causeText (some c.2) c.1)) ++ "\n"

end Report

end Colloquy.Command
