import Colloquy.Http.Exchange
import Colloquy.Text.Utf8
import Colloquy.Wire.Chunk

/-! # Event streams

A streamed response is a sequence of lines, of which those that begin with `data:` carry payloads;
the payload `[DONE]` ends it.  Bytes are kept back until their line is complete, so a character that
is split between two reads is decoded whole. -/

namespace Colloquy.Wire

/-- What a line tells. -/
inductive StreamEvent where
  /-- A payload. -/
  | payload (text : List Char)
  /-- The end. -/
  | done
deriving DecidableEq, Repr

/-- The first complete line, with the byte `0x0A` at its end, and the bytes after it. -/
def splitLine : List UInt8 → Option (List UInt8 × List UInt8)
  | [] => none
  | b :: bytes =>
    if b = 0x0A then some ([b], bytes)
    else (splitLine bytes).map fun (line, rest) => (b :: line, rest)

/-- What is left after a line is shorter. -/
theorem length_lt_of_splitLine {bytes line rest : List UInt8}
    (h : splitLine bytes = some (line, rest)) : rest.length < bytes.length := by
  induction bytes generalizing line rest with
  | nil => simp [splitLine] at h
  | cons b bytes ih =>
    by_cases hb : b = 0x0A
    · simp [splitLine, hb] at h
      simp [h.2]
    · cases hs : splitLine bytes with
      | none => simp [splitLine, hb, hs] at h
      | some p =>
        simp [splitLine, hb, hs] at h
        have := @ih p.1 p.2 (by simp [hs])
        rw [← h.2]
        simp
        omega

/-- A line without the line break at its end. -/
def dropLineEnd (line : List Char) : List Char :=
  (line.reverse.dropWhile fun c => c = '\n' || c = '\r').reverse

/-- A text without what it has to begin with. -/
def dropLead : List Char → List Char → Option (List Char)
  | [], s => some s
  | _ :: _, [] => none
  | l :: lead, c :: s => if l = c then dropLead lead s else none

/-- What a decoded line tells: what follows `data:` is a payload, or the end if it is `[DONE]`;
blank lines, comments and other fields tell nothing. -/
def eventOf (line : List Char) : Option StreamEvent :=
  (dropLead ['d', 'a', 't', 'a', ':'] (dropLineEnd line)).map fun data =>
    let payload := Text.trim data
    if payload = ['[', 'D', 'O', 'N', 'E', ']'] then .done else .payload payload

/-- The failure of a line that is no text. -/
def lineFailure (e : Utf8.Error) : ProviderError :=
  .streamInterrupted ("invalid UTF-8 in event stream: " ++ e.message)

/-- The events of the complete lines, up to the end of the stream, and the bytes kept back.  A line
that is no text fails the whole call with `lineFailure`. -/
def takeEvents (bytes : List UInt8) : Except ProviderError (List StreamEvent × List UInt8) :=
  match _h : splitLine bytes with
  | none => .ok ([], bytes)
  | some (line, rest) =>
    match Utf8.decode? line with
    | .error e => .error (lineFailure e)
    | .ok text =>
      match eventOf text with
      | some .done => .ok ([.done], rest)
      | event => do
        let (events, kept) ← takeEvents rest
        .ok (event.toList ++ events, kept)
termination_by bytes.length
decreasing_by exact length_lt_of_splitLine ‹_›

/-- The items of some events, `itemOf` each payload up to the first failure, and whether the stream
goes on after them. -/
def itemsOf : List StreamEvent → List StreamItem × Bool
  | [] => ([], true)
  | .done :: _ => ([], false)
  | .payload text :: rest =>
    match itemOf text with
    | .error e => ([.error e], false)
    | .ok chunk =>
      let (items, goesOn) := itemsOf rest
      (.ok chunk :: items, goesOn)

/-- The failure of a stream that ends without `[DONE]`. -/
def unfinished : ProviderError := .streamInterrupted "connection closed before [DONE]"

/-- The items of the reads that are still to come, the bytes `kept` having been kept back: each read
goes through `takeEvents` and `itemsOf`, and the last one leads to `failure`, or to `unfinished`. -/
def forward (kept : List UInt8) (failure : Option String) : List (List UInt8) → List StreamItem
  | [] =>
    match failure with
    | some reason => [.error (.streamInterrupted reason)]
    | none => [.error unfinished]
  | read :: reads =>
    match takeEvents (kept ++ read) with
    | .error e => [.error e]
    | .ok (events, kept) =>
      match itemsOf events with
      | (items, false) => items
      | (items, true) => items ++ forward kept failure reads

/-- The items that a body delivers, `forward` from an empty buffer: chunks, and one failure at the
end unless the stream said that it was done. -/
def streamItems (b : Http.Body) : List StreamItem := forward [] b.failure b.reads

end Colloquy.Wire
