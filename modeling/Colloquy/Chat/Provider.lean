import Colloquy.Chat.Assembly
import Colloquy.Chat.Embedding
import Colloquy.Chat.Request

/-! # Providers

A provider answers requests.  What it does may depend on a world that it changes, so each of its
operations is a function of the world.  `Provider.ofComplete` is the provider that can only
complete; the other operations have their standard meaning then. -/

namespace Colloquy

/-- What a stream delivers: chunks, and at most one failure at the end. -/
abbrev StreamItem := Except ProviderError StreamChunk

/-- Something that answers requests, in a world `σ`. -/
structure Provider (σ : Type) where
  /-- The provider's name. -/
  name : String
  /-- Answer a request completely. -/
  complete : ChatRequest → σ → Except ProviderError ChatResponse × σ
  /-- Answer a request in chunks. -/
  stream : ChatRequest → σ → Except ProviderError (List StreamItem) × σ
  /-- Embed texts. -/
  embed : EmbeddingRequest → σ → Except ProviderError EmbeddingResponse × σ
  /-- List the models on offer. -/
  listModels : σ → Except ProviderError (List String) × σ
  /-- Whether the provider can be reached. -/
  healthCheck : σ → Except ProviderError Bool × σ

namespace Provider

variable {σ : Type}

/-- A stream of one chunk, `StreamChunk.ofResponse` of a whole response. -/
def streamOf (response : Except ProviderError ChatResponse) :
    Except ProviderError (List StreamItem) :=
  response.map fun r => [.ok (.ofResponse r)]

/-- The failure to embed, `ProviderError.unsupported`. -/
def noEmbeddings (name model : String) : ProviderError :=
  .unsupported s!"{name} does not offer embeddings (model {model})"

/-- The provider that completes requests and has the standard operations otherwise: it streams whole
responses, does not embed, lists no models and is always healthy. -/
def ofComplete (name : String)
    (complete : ChatRequest → σ → Except ProviderError ChatResponse × σ) : Provider σ where
  name := name
  complete := complete
  stream request world :=
    let (response, world) := complete request world
    (streamOf response, world)
  embed request world := (.error (noEmbeddings name request.model), world)
  listModels world := (.ok [], world)
  healthCheck world := (.ok true, world)

end Provider

end Colloquy
