import Colloquy.Command.Identifier
import Colloquy.Command.Program
import Colloquy.Http.Offline
import Colloquy.Settings.Blame

/-! # The executable

Reads the arguments, the variables and the files that a command can see, carries the command out,
and shows and writes what came of it.  Connections cannot be opened from here, so every request
finds its server out of reach, `Http.Transport.offline`. -/

namespace Colloquy

/-- The variables that count. -/
def settingVariables : List String :=
  ["TYPECLAW_API_KEY", "OPENAI_API_KEY", "OPENROUTER_API_KEY", "TYPECLAW_PROVIDER",
    "TYPECLAW_MODEL", "TYPECLAW_BASE_URL"]

/-- The file that a command line asks to read. -/
def schemaPath? (arguments : List String) : Option String :=
  match Command.read arguments with
  | .ok (.run a) => a.schema
  | _ => none

/-- Add a file as it is now. -/
def loadFile (files : Files) (path : String) : IO Files := do
  try
    let bytes ← IO.FS.readBinFile path
    return { files with contents := (files.resolve path, bytes.toList) :: files.contents }
  catch _ => return files

/-- Write a file, with the directory it is in. -/
def storeFile (names : List String) (bytes : List UInt8) : IO Unit := do
  IO.FS.createDirAll ("/" ++ String.intercalate "/" names.dropLast)
  IO.FS.writeBinFile ("/" ++ String.intercalate "/" names) (.mk bytes.toArray)

/-- Carry out a command line here; the result is the exit code, 134 if the program was stopped. -/
def perform (arguments : List String) : IO UInt32 := do
  let home := (← IO.getEnv "HOME").getD "/tmp"
  let set ← settingVariables.filterMapM fun name => do
    return (← IO.getEnv name).map fun value => (name, value)
  let site : Command.Site Http.Offline :=
    { home := home
      env := fun name => set.lookup name
      files := ⟨(← IO.currentDir).toString, []⟩
      transport := .offline
      wording := Settings.wording
      orders := .sorted
      runId := Command.identifier (← IO.getRandomBytes 16).toList }
  let files ← (site.settingsPath :: (schemaPath? arguments).toList).foldlM loadFile site.files
  let (ending, world) := Command.program arguments { site with files := files } .start
  if world.stopped then return 134
  for (names, bytes) in ending.files.contents do
    unless files.contents.lookup names = some bytes do storeFile names bytes
  (← IO.getStdout).putStr ending.shown
  if let some report := ending.failure then (← IO.getStderr).putStr report.text
  if ending.code = 2 then
    (← IO.getStderr).putStrLn ("error: the arguments do not fit\n\n" ++ Command.programGrammar.help)
  return ending.code.toUInt32

end Colloquy

/-- The executable. -/
def main (arguments : List String) : IO UInt32 := Colloquy.perform arguments
