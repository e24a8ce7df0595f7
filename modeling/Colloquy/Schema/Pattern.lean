/-! # Regular patterns

The patterns of schemas: classes, groups, alternatives, repetitions, anchors and assertions.  A
pattern is matched by computing all places at which a match from a given place can end, so no order
among the alternatives has to be chosen. -/

namespace Colloquy.Schema

/-- A set of characters: those in one of the ranges, or all others. -/
structure CharSet where
  /-- Whether the ranges hold the characters left out. -/
  negated : Bool
  /-- Ranges of code points, ends included. -/
  ranges : List (Nat × Nat)
deriving DecidableEq, Repr

namespace CharSet

/-- Whether a character belongs to the set. -/
def contains (s : CharSet) (c : Char) : Bool :=
  (s.ranges.any fun r => r.1 ≤ c.toNat && c.toNat ≤ r.2) != s.negated

/-- The set of one character. -/
def single (c : Char) : CharSet := ⟨false, [(c.toNat, c.toNat)]⟩

/-- Decimal digits. -/
def digits : List (Nat × Nat) := [(0x30, 0x39)]

/-- Letters, digits and the underscore. -/
def wordRanges : List (Nat × Nat) := [(0x30, 0x39), (0x41, 0x5A), (0x5F, 0x5F), (0x61, 0x7A)]

/-- Blanks. -/
def blanks : List (Nat × Nat) :=
  [(0x09, 0x0D), (0x20, 0x20), (0xA0, 0xA0), (0x1680, 0x1680), (0x2000, 0x200A), (0x2028, 0x2029),
    (0x202F, 0x202F), (0x205F, 0x205F), (0x3000, 0x3000), (0xFEFF, 0xFEFF)]

/-- What the ranges leave out. -/
def complement (ranges : List (Nat × Nat)) : List (Nat × Nat) :=
  let sorted := ranges.mergeSort fun a b => a.1 ≤ b.1
  let gaps := sorted.foldl (fun (acc : List (Nat × Nat) × Nat) r =>
    if acc.2 < r.1 then ((acc.2, r.1 - 1) :: acc.1, r.2 + 1) else (acc.1, max acc.2 (r.2 + 1)))
    ([], 0)
  ((gaps.2, 0x10FFFF) :: gaps.1).reverse

end CharSet

/-- A pattern. -/
inductive Pattern where
  /-- Nothing. -/
  | empty
  /-- One character of a set. -/
  | char (set : CharSet)
  /-- The start of the text. -/
  | textStart
  /-- The end of the text. -/
  | textEnd
  /-- A place between a word and something else, or no such place. -/
  | boundary (wanted : Bool)
  /-- One pattern after the other. -/
  | seq (first second : Pattern)
  /-- Either of two patterns. -/
  | alt (first second : Pattern)
  /-- A pattern several times. -/
  | repeat (body : Pattern) (least : Nat) (most : Option Nat)
  /-- A place where a pattern matches, or does not; nothing is taken. -/
  | look (wanted : Bool) (body : Pattern)
deriving Repr

namespace Pattern

/-! ### Matching -/

/-- Whether a word character stands at a place. -/
def wordAt (text : Array Char) (i : Nat) : Bool :=
  match text[i]? with
  | some c => CharSet.contains ⟨false, CharSet.wordRanges⟩ c
  | none => false

/-- Add places that are not there yet. -/
def join (places more : List Nat) : List Nat :=
  more.foldl (fun acc i => if acc.contains i then acc else acc ++ [i]) places

/-- All places that some steps lead to. -/
def closure (step : Nat → List Nat) : Nat → List Nat → List Nat
  | 0, places => places
  | fuel + 1, places =>
    let next := join places (places.flatMap step)
    if next.length = places.length then places else closure step fuel next

/-- All places that exactly so many steps lead to. -/
def iterate (step : Nat → List Nat) : Nat → List Nat → List Nat
  | 0, places => places
  | n + 1, places => iterate step n (join [] (places.flatMap step))

/-- All places that at most so many steps lead to. -/
def iterateUpTo (step : Nat → List Nat) : Nat → List Nat → List Nat
  | 0, places => places
  | n + 1, places =>
    let next := join places (places.flatMap step)
    if next.length = places.length then places else iterateUpTo step n next

/-- The places at which a match that begins at a place can end. -/
def ends (text : Array Char) : Pattern → Nat → List Nat
  | empty, i => [i]
  | char set, i =>
    match text[i]? with
    | some c => if set.contains c then [i + 1] else []
    | none => []
  | textStart, i => if i = 0 then [i] else []
  | textEnd, i => if i = text.size then [i] else []
  | boundary wanted, i =>
    let before := if i = 0 then false else wordAt text (i - 1)
    if (before != wordAt text i) == wanted then [i] else []
  | seq p q, i => join [] ((p.ends text i).flatMap (q.ends text))
  | alt p q, i => join (p.ends text i) (q.ends text i)
  | .repeat p least most, i =>
    let base := iterate (p.ends text) least [i]
    match most with
    | none => closure (p.ends text) (text.size + 1) base
    | some n => iterateUpTo (p.ends text) (n - least) base
  | look wanted p, i => if (p.ends text i).isEmpty != wanted then [i] else []

/-- Whether a pattern matches somewhere in a text. -/
def occursIn (p : Pattern) (text : String) : Bool :=
  let chars := text.toList.toArray
  (List.range (chars.size + 1)).any fun i => !(p.ends chars i).isEmpty

/-! ### Reading -/

/-- The value of a hexadecimal digit. -/
def hexDigit? (c : Char) : Option Nat :=
  if c.isDigit then some (c.toNat - 48)
  else if 'a' ≤ c && c ≤ 'f' then some (c.toNat - 87)
  else if 'A' ≤ c && c ≤ 'F' then some (c.toNat - 55)
  else none

/-- A number in hexadecimal. -/
def hexNumber? (digits : List Char) : Option Nat :=
  if digits.isEmpty then none
  else digits.foldlM (fun n c => (hexDigit? c).map fun d => n * 16 + d) 0

/-- The ranges that an escape after its backslash stands for, and the rest. -/
def escapeRanges? : List Char → Option (List (Nat × Nat) × List Char)
  | 'd' :: s => some (CharSet.digits, s)
  | 'D' :: s => some (CharSet.complement CharSet.digits, s)
  | 'w' :: s => some (CharSet.wordRanges, s)
  | 'W' :: s => some (CharSet.complement CharSet.wordRanges, s)
  | 's' :: s => some (CharSet.blanks, s)
  | 'S' :: s => some (CharSet.complement CharSet.blanks, s)
  | 'n' :: s => some ([(10, 10)], s)
  | 'r' :: s => some ([(13, 13)], s)
  | 't' :: s => some ([(9, 9)], s)
  | 'f' :: s => some ([(12, 12)], s)
  | 'v' :: s => some ([(11, 11)], s)
  | 'x' :: a :: b :: s => (hexNumber? [a, b]).map fun n => ([(n, n)], s)
  | 'u' :: '{' :: s =>
    let digits := s.takeWhile (· ≠ '}')
    match s.drop digits.length, hexNumber? digits with
    | '}' :: rest, some n => some ([(n, n)], rest)
    | _, _ => none
  | 'u' :: a :: b :: c :: d :: s => (hexNumber? [a, b, c, d]).map fun n => ([(n, n)], s)
  | c :: s => if c.isAlphanum then none else some ([(c.toNat, c.toNat)], s)
  | [] => none

/-- One end of a range in a class: its ranges and the rest. -/
def classItem? : List Char → Option (List (Nat × Nat) × List Char)
  | '\\' :: 'b' :: s => some ([(8, 8)], s)
  | '\\' :: s => escapeRanges? s
  | c :: s => some ([(c.toNat, c.toNat)], s)
  | [] => none

/-- The ranges of a class up to its closing bracket; `fuel` bounds its length. -/
def classRanges? : Nat → Bool → List Char → Option (List (Nat × Nat) × List Char)
  | 0, _, _ => none
  | fuel + 1, first, s =>
    match s with
    | ']' :: rest => if first then none else some ([], rest)
    | _ => do
      let (item, rest) ← classItem? s
      match rest with
      | '-' :: ']' :: rest =>
        let (more, rest) ← classRanges? fuel false (']' :: rest)
        some (item ++ (0x2D, 0x2D) :: more, rest)
      | '-' :: rest =>
        let (last, rest) ← classItem? rest
        match item, last with
        | [(low, _)], [(_, high)] =>
          if high < low then none
          else
            let (more, rest) ← classRanges? fuel false rest
            some ((low, high) :: more, rest)
        | _, _ => none
      | _ =>
        let (more, rest) ← classRanges? fuel false rest
        some (item ++ more, rest)

/-- A decimal number at the front, if there is one. -/
def number? (s : List Char) : Option (Nat × List Char) :=
  let digits := s.takeWhile Char.isDigit
  if digits.isEmpty then none
  else some (digits.foldl (fun n c => n * 10 + (c.toNat - 48)) 0, s.drop digits.length)

/-- The bounds of a repetition at the front, and the rest; `none` where no repetition stands, or an
opening brace that begins none. -/
def bounds? : List Char → Option ((Nat × Option Nat) × List Char)
  | '*' :: s => some ((0, none), s)
  | '+' :: s => some ((1, none), s)
  | '?' :: s => some ((0, some 1), s)
  | '{' :: s => do
    let (least, rest) ← number? s
    match rest with
    | '}' :: rest => some ((least, some least), rest)
    | ',' :: '}' :: rest => some ((least, none), rest)
    | ',' :: rest =>
      match ← number? rest with
      | (most, '}' :: rest) => if most < least then none else some ((least, some most), rest)
      | _ => none
    | _ => none
  | _ => none

/-- Apply the repetitions that follow a pattern; at most one, with a mark of laziness. -/
def withBounds (p : Pattern) (s : List Char) : Pattern × List Char :=
  match bounds? s with
  | some ((least, most), '?' :: rest) => (.repeat p least most, rest)
  | some ((least, most), rest) => (.repeat p least most, rest)
  | none => (p, s)

mutual

/-- Read alternatives up to a closing parenthesis or the end. -/
def alternatives? : Nat → List Char → Option (Pattern × List Char)
  | 0, _ => none
  | fuel + 1, s => do
    let (p, rest) ← sequence? fuel s
    match rest with
    | '|' :: rest =>
      let (q, rest) ← alternatives? fuel rest
      some (.alt p q, rest)
    | _ => some (p, rest)

/-- Read patterns one after the other. -/
def sequence? : Nat → List Char → Option (Pattern × List Char)
  | 0, _ => none
  | _ + 1, [] => some (.empty, [])
  | fuel + 1, c :: s =>
    if c = '|' || c = ')' then some (.empty, c :: s)
    else do
      let (p, rest) ← atom? fuel (c :: s)
      let (p, rest) := withBounds p rest
      let (q, rest) ← sequence? fuel rest
      some (.seq p q, rest)

/-- Read one pattern without its repetition. -/
def atom? : Nat → List Char → Option (Pattern × List Char)
  | 0, _ => none
  | fuel + 1, s =>
    let group (wrap : Pattern → Pattern) (s : List Char) : Option (Pattern × List Char) := do
      match ← alternatives? fuel s with
      | (p, ')' :: rest) => some (wrap p, rest)
      | _ => none
    match s with
    | '(' :: '?' :: ':' :: rest => group id rest
    | '(' :: '?' :: '=' :: rest => group (.look true) rest
    | '(' :: '?' :: '!' :: rest => group (.look false) rest
    | '(' :: '?' :: '<' :: rest =>
      match rest.dropWhile (· ≠ '>') with
      | '>' :: rest => group id rest
      | _ => none
    | '(' :: '?' :: _ => none
    | '(' :: rest => group id rest
    | '[' :: '^' :: rest => do
      let (ranges, rest) ← classRanges? (rest.length + 1) true rest
      some (.char ⟨true, ranges⟩, rest)
    | '[' :: rest => do
      let (ranges, rest) ← classRanges? (rest.length + 1) true rest
      some (.char ⟨false, ranges⟩, rest)
    | '.' :: rest => some (.char ⟨true, [(10, 10)]⟩, rest)
    | '^' :: rest => some (.textStart, rest)
    | '$' :: rest => some (.textEnd, rest)
    | '\\' :: 'b' :: rest => some (.boundary true, rest)
    | '\\' :: 'B' :: rest => some (.boundary false, rest)
    | '\\' :: rest => do
      let (ranges, rest) ← escapeRanges? rest
      some (.char ⟨false, ranges⟩, rest)
    | '*' :: _ => none
    | '+' :: _ => none
    | '?' :: _ => none
    | '{' :: _ => none
    | c :: rest => some (.char (.single c), rest)
    | [] => none

end

/-- Read a pattern, if the text is one. -/
def ofText? (text : String) : Option Pattern :=
  let s := text.toList
  match alternatives? (4 * s.length + 4) s with
  | some (p, []) => some p
  | _ => none

end Pattern

end Colloquy.Schema
