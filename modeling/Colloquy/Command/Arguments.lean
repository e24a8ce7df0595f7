/-! # Command lines

A command line consists of options and operands.  Options are described in tables, from which both
the reading of arguments and the help texts follow.  Arguments are read from left to right, and the
first one that is out of place, or that asks for help, decides. -/

namespace Colloquy.Command

/-- What follows an option. -/
inductive Arity where
  /-- Nothing. -/
  | flag
  /-- A value that is acceptable. -/
  | value (title : String) (accepts : String → Bool)

/-- An option. -/
structure OptionSpec where
  /-- Its long name. -/
  long : String
  /-- Its letter. -/
  short : Option Char
  /-- What follows it. -/
  arity : Arity
  /-- What it is good for. -/
  purpose : String

/-- A level of the command line. -/
structure Grammar where
  /-- The words of the program and the command. -/
  title : String
  /-- What the level is good for. -/
  purpose : String
  /-- The operand, if one is needed. -/
  operand : Option (String × String)
  /-- The options. -/
  options : List OptionSpec
  /-- The commands, with what they are good for. -/
  commands : List (String × String)

/-- Why no command is carried out. -/
inductive Stop where
  /-- The arguments do not fit. -/
  | misuse
  /-- Help was asked for. -/
  | help (text : String)
  /-- The version was asked for. -/
  | version
deriving DecidableEq, Repr

/-! ### Numbers -/

/-- A natural number of 32 bits in decimal; a sign may precede it. -/
def readWord? (s : String) : Option UInt32 :=
  let (negative, digits) := match s.toList with
    | '-' :: rest => (true, rest)
    | '+' :: rest => (false, rest)
    | rest => (false, rest)
  let n := digits.foldl (fun n c => n * 10 + (c.toNat - 48)) 0
  if digits.isEmpty || !digits.all Char.isDigit || (negative && n != 0) || 4294967296 ≤ n then none
  else some (UInt32.ofNat n)

/-! ### Options of all levels -/

/-- Help is available on every level. -/
def helpOption : OptionSpec := ⟨"help", some 'h', .flag, "Print help"⟩

/-- The version is an option of the program only. -/
def versionOption : OptionSpec := ⟨"version", some 'V', .flag, "Print version"⟩

/-- Diagnostics are available on every level. -/
def verboseOption : OptionSpec := ⟨"verbose", some 'v', .flag, "Enable verbose logging"⟩

/-! ### Help -/

/-- The names of an option in a list. -/
def OptionSpec.names (o : OptionSpec) : String :=
  (match o.short with
    | some c => "-" ++ c.toString ++ ", "
    | none => "    ") ++ "--" ++ o.long ++
  (match o.arity with
    | .flag => ""
    | .value title _ => " <" ++ title ++ ">")

/-- Two columns, the first one as wide as its widest entry. -/
def columns (rows : List (String × String)) : String :=
  let width := rows.foldl (fun w r => max w r.1.length) 0
  String.join (rows.map fun r => "  " ++ r.1.pushn ' ' (width - r.1.length) ++ "  " ++ r.2 ++ "\n")

/-- The help text of a level. -/
def Grammar.help (g : Grammar) : String :=
  g.purpose ++ "\n\nUsage: " ++ g.title ++ " [OPTIONS]" ++
  (if g.commands.isEmpty then "" else " <COMMAND>") ++
  (match g.operand with
    | some (title, _) => " <" ++ title ++ ">"
    | none => "") ++ "\n" ++
  (if g.commands.isEmpty then "" else "\nCommands:\n" ++ columns g.commands) ++
  (match g.operand with
    | some (title, purpose) => "\nArguments:\n" ++ columns [("<" ++ title ++ ">", purpose)]
    | none => "") ++
  "\nOptions:\n" ++ columns (g.options.map fun o => (o.names, o.purpose))

/-! ### Reading -/

/-- What the arguments so far have said. -/
structure Reading where
  /-- The flags that were given. -/
  flags : List String
  /-- The values that were given to options. -/
  values : List (String × String)
  /-- The operands. -/
  operands : List String
  /-- An option whose value comes next. -/
  pending : Option OptionSpec
  /-- Whether only operands follow. -/
  ended : Bool

/-- Whether an argument looks like an option. -/
def isOption (argument : String) : Bool := argument.startsWith "-" && argument != "-"

namespace Reading

/-- Nothing was said. -/
def start : Reading := ⟨[], [], [], none, false⟩

/-- Whether a flag was given. -/
def has (r : Reading) (flag : String) : Bool := r.flags.contains flag

/-- The value that was given to an option. -/
def value? (r : Reading) (option : String) : Option String := r.values.lookup option

/-- Note a flag; it may be given once. -/
def addFlag (g : Grammar) (o : OptionSpec) (r : Reading) : Except Stop Reading :=
  if o.long = helpOption.long then .error (.help g.help)
  else if o.long = versionOption.long then .error .version
  else if r.has o.long then .error .misuse
  else .ok { r with flags := r.flags ++ [o.long] }

/-- Note the value of an option, which has to be acceptable; it may be given once. -/
def addValue (o : OptionSpec) (text : String) (r : Reading) : Except Stop Reading :=
  match o.arity with
  | .flag => .error .misuse
  | .value _ accepts =>
    if !accepts text || (r.value? o.long).isSome then .error .misuse
    else .ok { r with values := r.values ++ [(o.long, text)], pending := none }

/-- Read letters after a dash; what follows the letter of an option with a value is its value. -/
def letters (g : Grammar) : List Char → Reading → Except Stop Reading
  | [], r => .ok r
  | c :: rest, r =>
    match g.options.find? (·.short = some c) with
    | none => .error .misuse
    | some o =>
      match o.arity, rest with
      | .flag, _ => do letters g rest (← r.addFlag g o)
      | .value .., [] => .ok { r with pending := some o }
      | .value .., '=' :: text => r.addValue o (String.ofList text)
      | .value .., text => r.addValue o (String.ofList text)

/-- Read a long name after two dashes, with the value after an equals sign if there is one. -/
def long (g : Grammar) (text : List Char) (r : Reading) : Except Stop Reading :=
  match g.options.find? (·.long = String.ofList (text.takeWhile (· ≠ '='))) with
  | none => .error .misuse
  | some o =>
    match o.arity, text.dropWhile (· ≠ '=') with
    | .flag, [] => r.addFlag g o
    | .flag, _ => .error .misuse
    | .value .., [] => .ok { r with pending := some o }
    | .value .., _ :: value => r.addValue o (String.ofList value)

/-- Read one argument. -/
def step (g : Grammar) (r : Reading) (argument : String) : Except Stop Reading :=
  match r.pending with
  | some o => if isOption argument then .error .misuse else r.addValue o argument
  | none =>
    if r.ended || !isOption argument then
      if r.operands.length < (if g.operand.isSome then 1 else 0) then
        .ok { r with operands := r.operands ++ [argument] }
      else .error .misuse
    else
      match argument.toList with
      | ['-', '-'] => .ok { r with ended := true }
      | '-' :: '-' :: text => r.long g text
      | _ :: text => r.letters g text
      | [] => .error .misuse

/-- Nothing may be missing at the end. -/
def finish (g : Grammar) (r : Reading) : Except Stop Reading :=
  if r.pending.isSome || (g.operand.isSome && r.operands.isEmpty) then .error .misuse else .ok r

/-- Read all arguments of a level. -/
def all (g : Grammar) (arguments : List String) : Except Stop Reading := do
  (← arguments.foldlM (step g) start).finish g

end Reading

end Colloquy.Command
