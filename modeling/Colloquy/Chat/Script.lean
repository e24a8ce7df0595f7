import Colloquy.Chat.Provider

/-! # Scripted providers

A provider that answers from a script and keeps the requests it saw, for trying out a client or an
agent without a network. -/

namespace Colloquy

/-- What a scripted provider does next. -/
inductive ScriptStep where
  /-- Answer with a response. -/
  | response (response : ChatResponse)
  /-- Answer with a stream. -/
  | chunks (items : List StreamItem)
  /-- Answer with embeddings. -/
  | embeddings (response : EmbeddingResponse)
  /-- Fail. -/
  | failure (e : ProviderError)

/-- A request that a provider saw. -/
inductive SeenRequest where
  /-- A chat request. -/
  | chat (request : ChatRequest)
  /-- A request to embed. -/
  | embedding (request : EmbeddingRequest)

/-- The rest of a script, and the requests seen so far. -/
structure Script where
  /-- What is still to come. -/
  steps : List ScriptStep
  /-- The requests, the first one first. -/
  seen : List SeenRequest

namespace Script

/-- Note a request and take the next step. -/
def next (request : SeenRequest) (s : Script) : Option ScriptStep × Script :=
  (s.steps.head?, ⟨s.steps.drop 1, s.seen ++ [request]⟩)

/-- The failure of a script that has come to its end. -/
def exhausted : ProviderError := .notConfigured "script exhausted"

/-- The provider that completes requests from the script. -/
def provider : Provider Script :=
  .ofComplete "scripted" fun request s =>
    match s.next (.chat request) with
    | (some (.response r), s) => (.ok r, s)
    | (some (.failure e), s) => (.error e, s)
    | (_, s) => (.error exhausted, s)

/-- The provider that streams and embeds from the script and does not complete. -/
def streamingProvider : Provider Script :=
  { Provider.ofComplete "streaming"
      (fun request s => (.error (.unsupported "streaming only"), (s.next (.chat request)).2)) with
    stream := fun request s =>
      match s.next (.chat request) with
      | (some (.chunks items), s) => (.ok items, s)
      | (some (.failure e), s) => (.error e, s)
      | (_, s) => (.error exhausted, s)
    embed := fun request s =>
      match s.next (.embedding request) with
      | (some (.embeddings r), s) => (.ok r, s)
      | (some (.failure e), s) => (.error e, s)
      | (_, s) => (.error exhausted, s) }

end Script

end Colloquy
