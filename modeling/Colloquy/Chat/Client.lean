import Colloquy.Chat.Provider
import Colloquy.Output.Extract

/-! # The chat client

A provider with structured output: each request is shaped for its format, and validated content is
extracted into every choice of the response. -/

namespace Colloquy.Client

variable {σ : Type}

/-- Apply `ResponseFormat.extract` to the choices in order; the first failure ends it. -/
def extractChoices (format : ResponseFormat) : List Choice → Except OutputError (List Choice)
  | [] => .ok []
  | choice :: rest =>
    match format.extract choice.message with
    | (_, .error e) => .error e
    | (message, .ok content) => do
      let rest ← extractChoices format rest
      .ok ({ choice with message := message, structuredContent := content } :: rest)

/-- The response after `extractChoices`, where the request carries a format; a failure is an
`Error.output`. -/
def extractInto (format : Option ResponseFormat) (response : ChatResponse) :
    Except Error ChatResponse :=
  match format with
  | none => .ok response
  | some format =>
    match extractChoices format response.choices with
    | .ok choices => .ok { response with choices := choices }
    | .error e => .error (.output e)

/-- What a provider's answer becomes: a failure is an `Error.provider`, and a response goes to
`extractInto`. -/
def receive (format : Option ResponseFormat) (answer : Except ProviderError ChatResponse) :
    Except Error ChatResponse :=
  match answer with
  | .error e => .error (.provider e)
  | .ok response => extractInto format response

/-- Send `ChatRequest.shaped` of a request, wait for the whole response and `receive` it. -/
def chat (p : Provider σ) (request : ChatRequest) (world : σ) :
    Except Error ChatResponse × σ :=
  let (answer, world) := p.complete request.shaped world
  (receive request.responseFormat answer, world)

/-- The chunks of a stream up to its first failure, and that failure. -/
def delivered : List StreamItem → List StreamChunk × Option ProviderError
  | [] => ([], none)
  | .error e :: _ => ([], some e)
  | .ok chunk :: rest =>
    let (chunks, failure) := delivered rest
    (chunk :: chunks, failure)

/-- The response that a stream's items amount to: the chunks that are `delivered` are put together
by `PartialResponse.finish`, and the result goes to `extractInto`. -/
def assemble (format : Option ResponseFormat) (items : List StreamItem) :
    Except Error ChatResponse :=
  match delivered items with
  | (_, some e) => .error (.provider e)
  | (chunks, none) =>
    match (PartialResponse.ofChunks chunks).finish with
    | .error e => .error (.stream e)
    | .ok response => extractInto format response

/-- Send `ChatRequest.shaped` of a request and read the response as a stream.  Returns the chunks as
they were handed on, and what the items `assemble` to. -/
def chatStream (p : Provider σ) (request : ChatRequest) (world : σ) :
    (List StreamChunk × Except Error ChatResponse) × σ :=
  match p.stream request.shaped world with
  | (.error e, world) => (([], .error (.provider e)), world)
  | (.ok items, world) =>
    (((delivered items).1, assemble request.responseFormat items), world)

/-- Embed texts; at least one is needed. -/
def embed (p : Provider σ) (request : EmbeddingRequest) (world : σ) :
    Except Error EmbeddingResponse × σ :=
  if request.input.isEmpty then (.error (.config "embedding request has no input"), world)
  else
    let (answer, world) := p.embed request world
    (answer.mapError .provider, world)

end Colloquy.Client
