import Colloquy.Http.Time
import Colloquy.Json.Print

/-! # Exchanges with a server

A `Request` is handed to an HTTP client as it was put together: the client parses the address,
checks the header fields and opens the connection.  The client is not modelled; what it makes of a
`Request` is a parameter, `Transport`, together with the `Clock` that is read around it.  A `Reply`
is what comes back. -/

namespace Colloquy.Http

/-- What is asked of the server. -/
inductive Method where
  /-- To hand something out. -/
  | get
  /-- To take something in. -/
  | post
deriving DecidableEq, Repr

/-- A request as it is handed to the client, `method url` with `headers` and `body`. -/
structure Request where
  /-- What is asked. -/
  method : Method
  /-- The address, which the client has yet to parse. -/
  url : String
  /-- Header fields, in the order in which they were added. -/
  headers : List (String × String)
  /-- The body. -/
  body : Option Json
  /-- The time after which the client itself gives up. -/
  timeout : Option Duration
deriving Repr

/-- The body of a reply, as it is read. -/
structure Body where
  /-- The bytes of each read. -/
  reads : List (List UInt8)
  /-- How the last read failed, if the body broke off. -/
  failure : Option String
deriving DecidableEq, Repr

namespace Body

/-- All bytes, unless the body broke off. -/
def bytes? (b : Body) : Option (List UInt8) :=
  match b.failure with
  | none => some b.reads.flatten
  | some _ => none

end Body

/-- What a server answers. -/
structure Reply where
  /-- The status code. -/
  status : UInt16
  /-- Header fields, names in lower case. -/
  headers : List (String × String)
  /-- The body. -/
  body : Body
deriving DecidableEq, Repr

namespace Reply

/-- Whether the server did what was asked. -/
def isSuccess (r : Reply) : Bool := 200 ≤ r.status && r.status < 300

end Reply

/-- What comes of waiting for the head of a reply, `Transport.send`. -/
inductive Attempt where
  /-- A reply. -/
  | reply (reply : Reply)
  /-- No reply, for a reason in the client's words: the address or a header field is malformed, or
  there is no connection, or it was closed. -/
  | failed (reason : String)
  /-- No reply in time. -/
  | silent
deriving DecidableEq, Repr

/-- A clock in a world `σ`. -/
structure Clock (σ : Type) where
  /-- Read the clock. -/
  now : σ → Instant × σ
  /-- Let some time pass. -/
  wait : Duration → σ → σ
  /-- Stop the program, since a time is out of range; nothing that it would do next is seen. -/
  stop : σ → σ

/-- A clock and an HTTP client in a world `σ`. -/
structure Transport (σ : Type) extends Clock σ where
  /-- Send a request and wait for the head of the reply, but not longer than this. -/
  send : Request → Duration → σ → Attempt × σ
  /-- Send a request and wait for the head of the reply as long as the request says; a failure is
  in the client's words. -/
  ask : Request → σ → Except String Reply × σ

/-- The wording of a body that is incomplete or not what it should be. -/
def undecodableMessage : String := "error decoding response body"

end Colloquy.Http
