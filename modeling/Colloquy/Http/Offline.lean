import Colloquy.Http.Exchange
import Colloquy.Http.Url

/-! # Clients without a network

`Transport.offline` looks at a request as any client does and then finds no server.  What it says is
the wording for a request that is malformed, or for a server that is out of reach.
`Transport.always` does not look at the request and takes no time. -/

namespace Colloquy.Http

/-- Whether a character may stand in the name of a header field. -/
def inFieldName (c : Char) : Bool :=
  c.isAlphanum || "!#$%&'*+-.^_|~".toList.contains c || c = '\x60'

/-- Whether a text may be the name of a header field. -/
def isFieldName (s : String) : Bool :=
  s ≠ "" && s.length < 65536 && s.toList.all inFieldName

/-- Whether a text may be the value of a header field: controls other than the tab may not occur. -/
def isFieldValue (s : String) : Bool :=
  s.toList.all fun c => (0x20 ≤ c.toNat && c.toNat ≠ 0x7F) || c = '\t'

/-- Why a request has no reply where no server can be reached. -/
def Request.obstacle (r : Request) : String :=
  match Url.ofText? r.url with
  | none => "builder error"
  | some url =>
    if !url.isWeb then "builder error for url (" ++ url.text ++ ")"
    else if r.headers.all fun h => isFieldName h.1 && isFieldValue h.2 then
      "error sending request for url (" ++ url.text ++ ")"
    else "builder error"

/-- The world of a client without a network. -/
structure Offline where
  /-- The time that waits have taken; they are counted and not spent. -/
  time : Instant
  /-- Whether the program has been stopped. -/
  stopped : Bool
deriving DecidableEq, Repr

namespace Offline

/-- Where a program starts. -/
def start : Offline := ⟨.start, false⟩

end Offline

/-- The client that reaches no server. -/
def Transport.offline : Transport Offline where
  now w := (w.time, w)
  wait d w := { w with time := (w.time.after? d).getD w.time }
  stop w := { w with stopped := true }
  send r _ w := (.failed r.obstacle, w)
  ask r w := (.error r.obstacle, w)

/-- The client for which every request comes to the same. -/
def Transport.always (outcome : Attempt) : Transport Unit where
  now _ := (.start, ())
  wait _ _ := ()
  stop _ := ()
  send _ _ _ := (outcome, ())
  ask _ _ :=
    match outcome with
    | .reply r => (.ok r, ())
    | .failed reason => (.error reason, ())
    | .silent => (.error "operation timed out", ())

end Colloquy.Http
