import Colloquy.Json.Token
import Colloquy.Text.Utf8

/-! # Web addresses

`Url.ofText?` splits an address into its scheme and the rest, each in its normal form: the scheme and
the host in lower case, no user, no default port, no dot segments, and everything that may not stand
in an address as percent escapes.  Names of hosts are taken to be ASCII, and addresses of hosts in
brackets are not looked into. -/

namespace Colloquy

/-- An address in normal form. -/
structure Url where
  /-- The scheme, without the colon. -/
  scheme : String
  /-- Everything after the colon. -/
  rest : String
deriving DecidableEq, Repr

namespace Url

/-- The text of an address. -/
def text (u : Url) : String := u.scheme ++ ":" ++ u.rest

/-- Whether requests can be sent to the address. -/
def isWeb (u : Url) : Bool := u.scheme = "http" || u.scheme = "https"

/-- Schemes whose addresses have a host, with their default ports. -/
def hostSchemes : List (String × Nat) :=
  [("http", 80), ("https", 443), ("ws", 80), ("wss", 443), ("ftp", 21)]

/-- Upper case hexadecimal digit. -/
def upperHexDigit (n : Nat) : Char :=
  if n < 10 then Char.ofNat (48 + n) else Char.ofNat (55 + n)

/-- A byte as a percent escape. -/
def escapeByte (b : UInt8) : List Char :=
  ['%', upperHexDigit (b.toNat / 16), upperHexDigit (b.toNat % 16)]

/-- Escape the characters of a set, and all controls and characters beyond ASCII. -/
def escape (set : List Char) (s : List Char) : List Char :=
  s.flatMap fun c =>
    if c.toNat < 0x20 || 0x7F ≤ c.toNat || set.contains c then (Utf8.encode [c]).flatMap escapeByte
    else [c]

/-- Characters that are escaped in a path. -/
def pathSet : List Char := [' ', '"', '#', '<', '>', '?', '\x60', '\x7b', '\x7d', '^']

/-- Characters that are escaped in a query. -/
def querySet : List Char := [' ', '"', '#', '<', '>', '\'']

/-- Characters that are escaped in a fragment. -/
def fragmentSet : List Char := [' ', '"', '<', '>', '\x60']

/-- Characters that no host may have. -/
def hostBarred : List Char :=
  [' ', '#', '%', '/', ':', '<', '>', '?', '@', '[', '\\', ']', '^', '|']

/-- Split a text at the first character that satisfies a test; the character begins the second
part. -/
def splitAt (test : Char → Bool) (s : List Char) : List Char × List Char :=
  (s.takeWhile fun c => !test c, s.dropWhile fun c => !test c)

/-- Whether a character ends a step of a path. -/
def isSlash (c : Char) : Bool := c = '/' || c = '\\'

/-- Whether a step stands for the directory itself. -/
def isHere (step : List Char) : Bool :=
  ["." , "%2e"].contains (String.ofList (step.map Char.toLower))

/-- Whether a step stands for the directory above. -/
def isAbove (step : List Char) : Bool :=
  ["..", ".%2e", "%2e.", "%2e%2e"].contains (String.ofList (step.map Char.toLower))

/-- Resolve the dot segments of a path given by its steps, those taken already in reverse. -/
def resolveSteps : List (List Char) → List (List Char) → List (List Char)
  | taken, [] => taken.reverse
  | taken, [step] =>
    if isAbove step then ([] :: taken.drop 1).reverse
    else if isHere step then ([] :: taken).reverse
    else (step :: taken).reverse
  | taken, step :: next :: rest =>
    if isAbove step then resolveSteps (taken.drop 1) (next :: rest)
    else if isHere step then resolveSteps taken (next :: rest)
    else resolveSteps (step :: taken) (next :: rest)

/-- The steps of a path, without the slash that it begins with. -/
def steps : List Char → List (List Char)
  | [] => [[]]
  | c :: rest =>
    if isSlash c then [] :: steps rest
    else
      match steps rest with
      | [] => [[c]]
      | step :: more => (c :: step) :: more

/-- The normal form of a path. -/
def normalPath (s : List Char) : List Char :=
  let s := if (s.head?.map isSlash).getD false then s.drop 1 else s
  ((resolveSteps [] (steps s)).map fun step => '/' :: escape pathSet step).flatten

/-- The port of a host, where it is not the default. -/
def normalPort? (standard : Nat) (s : List Char) : Option (List Char) :=
  if s.isEmpty then some []
  else if s.all Char.isDigit then
    let n := s.foldl (fun n c => n * 10 + (c.toNat - 48)) 0
    if 65535 < n then none
    else if n = standard then some []
    else some (':' :: Nat.toDigits 10 n)
  else none

/-- The bytes of a text with percent escapes. -/
def unescape : List Char → List UInt8
  | '%' :: a :: b :: rest =>
    match Json.hexValue? a, Json.hexValue? b with
    | some m, some n => .ofNat (m * 16 + n) :: unescape rest
    | _, _ => Utf8.encode ['%'] ++ unescape (a :: b :: rest)
  | c :: rest => Utf8.encode [c] ++ unescape rest
  | [] => []

/-- A number in the address of a host: hexadecimal after `0x`, octal after any other zero. -/
def hostNumber? (s : List Char) : Option Nat :=
  let (base, digits) := match s with
    | '0' :: 'x' :: rest => (16, rest)
    | '0' :: c :: rest => (8, c :: rest)
    | s => (10, s)
  if s.isEmpty then none
  else digits.foldlM (fun n c => do
    let d ← Json.hexValue? c
    if d < base then some (n * base + d) else none) 0

/-- The parts of a host, without an empty one at its end. -/
def hostParts (host : List Char) : List (List Char) :=
  let parts := host.splitOn '.'
  if 1 < parts.length && parts.getLast? = some [] then parts.dropLast else parts

/-- Whether a host ends in a number, and is an address for that reason. -/
def endsInNumber (host : List Char) : Bool :=
  match (hostParts host).getLast? with
  | some part => (!part.isEmpty && part.all Char.isDigit) || (hostNumber? part).isSome
  | none => false

/-- The normal form of the address of a host, which is one to four numbers: all but the last are
bytes, and the last one fills the bytes that are left. -/
def normalNumbers? (host : List Char) : Option (List Char) := do
  let numbers ← (hostParts host).mapM hostNumber?
  let last ← numbers.getLast?
  let firsts := numbers.dropLast
  if 4 < numbers.length || firsts.any (255 < ·) || Nat.pow 256 (5 - numbers.length) ≤ last then none
  else
    let shifted := firsts.zipIdx.map fun n => n.1 * Nat.pow 256 (3 - n.2)
    let value := shifted.foldl (· + ·) last
    let bytes := [value / 16777216, value / 65536 % 256, value / 256 % 256, value % 256]
    some (List.intercalate ['.'] (bytes.map (Nat.toDigits 10)))

/-- The normal form of a host that is not in brackets. -/
def normalName? (host : List Char) : Option (List Char) := do
  let host := (← (Utf8.decode? (unescape host)).toOption).map Char.toLower
  if host.isEmpty || host.any fun c => c.toNat < 0x20 || c.toNat = 0x7F || hostBarred.contains c then
    none
  else if endsInNumber host then normalNumbers? host
  else some host

/-- The normal form of a host and port. -/
def normalHost? (standard : Nat) (s : List Char) : Option (List Char) := do
  if s.head? = some '[' then
    let (host, after) := splitAt (· = ']') s
    let port := after.drop 1
    if after.isEmpty || !(port.isEmpty || port.head? = some ':') then none
    else (normalPort? standard (port.drop 1)).map (host.map Char.toLower ++ ']' :: ·)
  else
    let (host, port) := splitAt (· = ':') s
    let host ← normalName? host
    (normalPort? standard (port.drop 1)).map (host ++ ·)

/-- An authority without the user part, which the last `@` ends. -/
def withoutUser (s : List Char) : List Char := (splitAt (· = '@') s.reverse).1.reverse

/-- The normal form of a query and a fragment, with their marks. -/
def normalTail (s : List Char) : List Char :=
  let (query, fragment) := splitAt (· = '#') s
  escape querySet query ++
    (if fragment.isEmpty then [] else '#' :: escape fragmentSet (fragment.drop 1))

/-- The normal form of an address with a host, after the colon. -/
def normalRest? (standard : Nat) (s : List Char) : Option (List Char) := do
  let (authority, after) := splitAt (fun c => isSlash c || c = '?' || c = '#') (s.dropWhile isSlash)
  let host ← normalHost? standard (withoutUser authority)
  let (path, tail) := splitAt (fun c => c = '?' || c = '#') after
  some ('/' :: '/' :: (host ++ normalPath path ++ normalTail tail))

/-- Whether a character may stand in a scheme. -/
def inScheme (c : Char) : Bool := c.isAlphanum || c = '+' || c = '-' || c = '.'

/-- The address of a text, if it is one. -/
def ofText? (text : String) : Option Url := do
  let trimmed := (text.toList.dropWhile (·.toNat ≤ 0x20)).reverse.dropWhile (·.toNat ≤ 0x20)
  let s := trimmed.reverse.filter fun c => c ≠ '\t' && c ≠ '\n' && c ≠ '\r'
  let (scheme, rest) := splitAt (· = ':') s
  let first ← scheme.head?
  if !first.isAlpha || !scheme.all inScheme || rest.isEmpty then none
  else
    let scheme := String.ofList (scheme.map Char.toLower)
    let rest := rest.drop 1
    match hostSchemes.lookup scheme with
    | some standard => (normalRest? standard rest).map fun r => ⟨scheme, String.ofList r⟩
    | none => some ⟨scheme, String.ofList (escape [] rest)⟩

end Url

end Colloquy
