import Colloquy.Http.Retry
import Colloquy.Wire.Embedding
import Colloquy.Wire.EventStream
import Colloquy.Wire.Request

/-! # Endpoints

An endpoint is where a chat-completions interface is reached, and how.  With a transport it is a
provider. -/

namespace Colloquy.Wire

/-- Where an interface is reached, and how. -/
structure Endpoint where
  /-- The provider's name. -/
  name : String
  /-- The address that all paths are relative to. -/
  baseUrl : String
  /-- The key; an empty one is not sent. -/
  apiKey : String
  /-- Further header fields of requests. -/
  headers : List (String × String)
  /-- How passing failures are retried. -/
  retry : Http.RetryPolicy
deriving DecidableEq, Repr

namespace Endpoint

variable {σ : Type}

/-- An address without the slashes at its end. -/
def trimSlashes (url : String) : String :=
  String.ofList (url.toList.reverse.dropWhile (· = '/')).reverse

/-- The endpoint at `baseUrl`, less slashes at its end, with `RetryPolicy.standard` and no further
header fields. -/
def new (name baseUrl apiKey : String) : Endpoint :=
  ⟨name, trimSlashes baseUrl, apiKey, [], .standard⟩

/-- OpenAI's endpoint. -/
def openai (apiKey : String) : Endpoint := new "openai" "https://api.openai.com/v1" apiKey

/-- OpenRouter's endpoint. -/
def openrouter (apiKey : String) : Endpoint :=
  new "openrouter" "https://openrouter.ai/api/v1" apiKey

/-- The endpoint of a local Ollama, or of one elsewhere. -/
def ollama (baseUrl : Option String) : Endpoint :=
  new "ollama" (baseUrl.getD "http://localhost:11434/v1") ""

/-- The header field `Authorization: Bearer {apiKey}`; none for an empty key. -/
def credentials (e : Endpoint) : List (String × String) :=
  if e.apiKey = "" then [] else [("Authorization", "Bearer " ++ e.apiKey)]

/-- The address `{baseUrl}/{path}`. -/
def url (e : Endpoint) (path : String) : String := e.baseUrl ++ "/" ++ path

/-- The request `POST {baseUrl}/{path}` that carries a body, with `credentials` and, for a stream,
`Accept: text/event-stream` among its header fields. -/
def postRequest (e : Endpoint) (path : String) (body : Json) (stream : Bool) : Http.Request where
  method := .post
  url := e.url path
  headers := [("Content-Type", "application/json")] ++ e.credentials ++
    (if stream then [("Accept", "text/event-stream")] else []) ++ e.headers
  body := some body
  timeout := none

/-- The request `GET {baseUrl}/models`, for which the client waits `attemptTimeout`. -/
def modelsRequest (e : Endpoint) : Http.Request where
  method := .get
  url := e.url "models"
  headers := e.credentials
  body := none
  timeout := some e.retry.attemptTimeout

/-- Whether a text may be read from a header field. -/
def isVisible (s : String) : Bool :=
  s.toList.all fun c => (0x20 ≤ c.toNat && c.toNat < 0x7F) || c = '\t'

/-- A number of seconds in decimal digits, a plus sign before them allowed; `none` if it is not
below `2 ^ 64`. -/
def readSeconds? (s : List Char) : Option UInt64 :=
  let digits := if s.head? = some '+' then s.drop 1 else s
  let n := digits.foldl (fun n c => n * 10 + (c.toNat - 48)) 0
  if digits.isEmpty || !digits.all Char.isDigit || 18446744073709551616 ≤ n then none
  else some (.ofNat n)

/-- The seconds that a provider at its limit asks to wait in `retry-after`; five where it does not
say. -/
def retryAfter (headers : List (String × String)) : UInt64 :=
  match headers.lookup "retry-after" with
  | some value => if isVisible value then (readSeconds? (Text.trim value.toList)).getD 5 else 5
  | none => 5

/-- The body of a reply that reports a failure, by `decodeLossy`; a body that broke off counts as
empty. -/
def failureText (b : Http.Body) : String :=
  String.ofList (Utf8.decodeLossy (b.bytes?.getD []))

/-- The reply if it is a success, and its failure otherwise: 429 is `rateLimited`, 401 and 403 are
`authenticationFailed`, and every other status is `api`. -/
def judge (r : Http.Reply) : Except ProviderError Http.Reply :=
  if r.status = 429 then .error (.rateLimited (retryAfter r.headers))
  else if r.status = 401 ∨ r.status = 403 then
    .error (.authenticationFailed "Invalid API key or insufficient permissions")
  else if r.isSuccess then .ok r
  else .error (.api r.status (failureText r.body))

/-- One attempt to send a request within `timeout`: a reply is judged by its status, `judge`. -/
def sendOnce (t : Http.Transport σ) (request : Http.Request) (timeout : Http.Duration) (world : σ) :
    Except ProviderError Http.Reply × σ :=
  match t.send request timeout world with
  | (.reply r, world) => (judge r, world)
  | (.failed reason, world) => (.error (.network reason), world)
  | (.silent, world) =>
    (.error (.timeout s!"no response within {timeout.wholeSeconds}s"), world)

/-- Send a body, with retries: `sendOnce` of `postRequest` as `e.retry` says. -/
def post (e : Endpoint) (t : Http.Transport σ) (path : String) (body : Json) (stream : Bool)
    (world : σ) : Http.RetryRun Http.Reply σ :=
  e.retry.run t.toClock (sendOnce t (e.postRequest path body stream)) world

/-- What stands for bytes that are no UTF-8 in the text of a body, `!\ud800!`: half of a surrogate
pair, which is refused in a string that is read and passed over in one that is not. -/
def faultMark : List Char := ['!', '\\', 'u', 'd', '8', '0', '0', '!']

/-- Decode the whole body of a reply, `faultMark` standing for each fault of UTF-8.  Only the
strings that are read have to be UTF-8. -/
def decodeBody {α : Type} (d : Json.Decoder α) (b : Http.Body) : Option α := do
  (d.parse (Utf8.decodeMarking faultMark (← b.bytes?))).toOption

/-- Answer a request completely: `post` of `chatBody` to `chat/completions`, the reply being read by
`Reply.decoder`. -/
def complete (e : Endpoint) (transport : Http.Transport σ) (request : ChatRequest) (world : σ) :
    Except ProviderError ChatResponse × σ :=
  let run := e.post transport "chat/completions" (chatBody request false) false world
  let answer := do
    match decodeBody Reply.decoder (← run.answer).body with
    | some r => r.toResponse
    | none => .error (misunderstood ("Failed to parse response: " ++ Http.undecodableMessage))
  (answer, run.world)

/-- Answer a request in chunks: `post` of `chatBody` to `chat/completions`, the reply being read by
`streamItems`. -/
def stream (e : Endpoint) (transport : Http.Transport σ) (request : ChatRequest) (world : σ) :
    Except ProviderError (List StreamItem) × σ :=
  let run := e.post transport "chat/completions" (chatBody request true) true world
  (run.answer.map fun r => streamItems r.body, run.world)

/-- Embed texts: `post` of `embeddingBody` to `embeddings`, the reply being read by
`EmbeddingReply.decoder`. -/
def embed (e : Endpoint) (transport : Http.Transport σ) (request : EmbeddingRequest) (world : σ) :
    Except ProviderError EmbeddingResponse × σ :=
  let run := e.post transport "embeddings" (embeddingBody request) false world
  let answer := do
    match decodeBody EmbeddingReply.decoder (← run.answer).body with
    | some r => r.toResponse
    | none =>
      .error (misunderstood ("Failed to parse embedding response: " ++ Http.undecodableMessage))
  (answer, run.world)

/-- Send `modelsRequest`, once. -/
def askModels (e : Endpoint) (t : Http.Transport σ) (world : σ) :
    Except ProviderError Http.Reply × σ :=
  let (answer, world) := t.ask e.modelsRequest world
  (answer.mapError .network, world)

/-- The identifiers `data[_].id` in a list of models; anything else in it is passed over. -/
def modelIds (v : Json) : List String :=
  match v.field? "data" with
  | some (.arr models) => models.filterMap fun m => (m.field? "id").bind Json.asString?
  | _ => []

/-- List the models on offer, `modelIds` of the reply; none where the server refuses. -/
def listModels (e : Endpoint) (transport : Http.Transport σ) (world : σ) :
    Except ProviderError (List String) × σ :=
  let (answer, world) := e.askModels transport world
  let models := do
    let r ← answer
    if !r.isSuccess then .ok []
    else
      match decodeBody .json r.body with
      | some v => .ok (modelIds v)
      | none => .error (.network Http.undecodableMessage)
  (models, world)

/-- Whether the server can be reached and answers `modelsRequest` with a success. -/
def healthCheck (e : Endpoint) (transport : Http.Transport σ) (world : σ) :
    Except ProviderError Bool × σ :=
  let (answer, world) := e.askModels transport world
  (answer.map Http.Reply.isSuccess, world)

/-- The provider behind an endpoint. -/
def provider (e : Endpoint) (transport : Http.Transport σ) : Provider σ where
  name := e.name
  complete := e.complete transport
  stream := e.stream transport
  embed := e.embed transport
  listModels := e.listModels transport
  healthCheck := e.healthCheck transport

end Endpoint

end Colloquy.Wire
