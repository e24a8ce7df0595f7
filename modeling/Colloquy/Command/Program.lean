import Colloquy.Command.Run
import Colloquy.Settings.Print

/-! # The program

A command line is read and carried out.  The program ends with the code 0 if all went well, with 1
and a report if it failed, and with 2 if the command line does not fit. -/

namespace Colloquy.Command

/-- How the program ends. -/
structure Ending where
  /-- The exit code. -/
  code : UInt8
  /-- The standard output. -/
  shown : String
  /-- The failure. -/
  failure : Option Report
  /-- The files afterwards. -/
  files : Files
deriving DecidableEq, Repr

variable {σ : Type}

/-- Show the settings, the keys being hidden: `Settings.masked` under a line with the path. -/
def inspect (site : Site σ) : Outcome :=
  match site.settings with
  | .error r => .failed r
  | .ok s => .done ("# " ++ site.settingsPath ++ "\n" ++ s.masked.toToml site.orders ++ "\n")

/-- Write `Settings.standardToml` to `settingsPath`; a file that is there is replaced only by
`force`. -/
def writeStandard (force : Bool) (site : Site σ) : Except Report Files := do
  let path := site.settingsPath
  if site.files.exist path && !force then
    throw (.ofText (path ++ " already exists (pass --force to overwrite)"))
  if let some reason := site.files.directoryObstacle? site.settingsDirectory then
    throw (.because ("Failed to create " ++ site.settingsDirectory) reason)
  (site.files.write path Settings.standardToml).mapError (.because ("Failed to write " ++ path))

/-- Carry out a command; the code is 1 if it fails. -/
def execute (site : Site σ) (world : σ) : Invocation → Ending × σ
  | .run a =>
    let (o, world) := run a site world
    (⟨if o.failure.isSome then 1 else 0, o.shown, o.failure, site.files⟩, world)
  | .inspect =>
    let o := inspect site
    (⟨if o.failure.isSome then 1 else 0, o.shown, o.failure, site.files⟩, world)
  | .init force =>
    match writeStandard force site with
    | .error r => (⟨1, "", some r, site.files⟩, world)
    | .ok files =>
      (⟨0, "Wrote default configuration to " ++ site.settingsPath ++ "\n", none, files⟩, world)

/-- Carry out what `read arguments` asks for; the code is 2 for a command line that does not fit. -/
def program (arguments : List String) (site : Site σ) (world : σ) : Ending × σ :=
  match read arguments with
  | .ok c => execute site world c
  | .error .misuse => (⟨2, "", none, site.files⟩, world)
  | .error (.help text) => (⟨0, text, none, site.files⟩, world)
  | .error .version => (⟨0, programName ++ " " ++ programVersion ++ "\n", none, site.files⟩, world)

end Colloquy.Command
