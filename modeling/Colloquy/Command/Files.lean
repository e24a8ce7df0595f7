import Colloquy.Settings.Load

/-! # Files

The files that a command can see, by their paths.  Directories are there as far as files are in
them. -/

namespace Colloquy

/-- The parts of a text between the occurrences of a character. -/
def Text.parts (separator : Char) (s : String) : List String :=
  (s.toList.splitOn separator).map String.ofList

/-- Some files. -/
structure Files where
  /-- The directory from which relative paths lead, which is there in any case. -/
  workingDirectory : String
  /-- The bytes of the files, by the names on the way to them. -/
  contents : List (List String × List UInt8)
deriving DecidableEq, Repr

namespace Files

/-- Follow the names of a path. -/
def follow (start : List String) : List String → List String
  | [] => start
  | name :: rest =>
    if name = "" ∨ name = "." then follow start rest
    else if name = ".." then follow start.dropLast rest
    else follow (start ++ [name]) rest

/-- The names on the way to a file, by `follow` from the root, or from `workingDirectory` for a
relative path. -/
def resolve (f : Files) (path : String) : List String :=
  let base := if path.startsWith "/" then [] else follow [] (Text.parts '/' f.workingDirectory)
  follow base (Text.parts '/' path)

/-- Whether names lead to a directory. -/
def isDirectory (f : Files) (names : List String) : Bool :=
  names.isPrefixOf (f.resolve "") ||
    f.contents.any fun e => names.isPrefixOf e.1 && names.length < e.1.length

/-- Whether names lead through a file. -/
def passesFile (f : Files) (names : List String) : Bool :=
  f.contents.any fun e => e.1.isPrefixOf names && e.1.length < names.length

/-- What is found at a path: the text of a file, `missing`, or `unreadable` for a directory and for
a path that leads through a file. -/
def read (f : Files) (path : String) : FileContent :=
  let names := f.resolve path
  match f.contents.lookup names with
  | some bytes =>
    if path.endsWith "/" then .unreadable "Not a directory (os error 20)" else .ofBytes bytes
  | none =>
    if f.isDirectory names then .unreadable "Is a directory (os error 21)"
    else if f.passesFile names then .unreadable "Not a directory (os error 20)"
    else .missing

/-- Whether there is something at a path. -/
def exist (f : Files) (path : String) : Bool :=
  let names := f.resolve path
  (f.contents.lookup names).isSome || f.isDirectory names

/-- Why a directory cannot be made at a path, if it cannot. -/
def directoryObstacle? (f : Files) (path : String) : Option String :=
  let names := f.resolve path
  if (f.contents.lookup names).isSome then some "File exists (os error 17)"
  else if f.passesFile names then some "Not a directory (os error 20)"
  else none

/-- Put a text at a path, unless a directory is there. -/
def write (f : Files) (path text : String) : Except String Files :=
  let names := f.resolve path
  if f.isDirectory names then .error "Is a directory (os error 21)"
  else
    let others := f.contents.filter (·.1 ≠ names)
    .ok { f with contents := (names, Utf8.encode text.toList) :: others }

end Files

end Colloquy
