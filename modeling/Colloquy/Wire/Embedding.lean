import Colloquy.Binary.Base64
import Colloquy.Chat.Embedding
import Colloquy.Text.Utf8
import Colloquy.Wire.Response

/-! # Embeddings on the wire

The JSON of answers to requests to embed texts.  A vector is an array of numbers, or the base 64
text of its elements' bytes, four for each, the lowest first. -/

namespace Colloquy.Wire

/-- A vector as it is written. -/
inductive WrittenVector where
  /-- An array of numbers. -/
  | numbers (values : List Single)
  /-- Packed bytes in base 64. -/
  | packed (text : String)
deriving DecidableEq, Repr

/-- A vector and its position. -/
structure EmbeddingEntry where
  /-- Position of the text. -/
  index : UInt32
  /-- The vector. -/
  vector : WrittenVector
deriving DecidableEq, Repr

/-- Tokens spent on embedding. -/
structure EmbeddingUsage where
  /-- Tokens of the texts. -/
  promptTokens : UInt32
  /-- All tokens. -/
  totalTokens : UInt32
deriving DecidableEq, Repr

/-- An answer on the wire. -/
structure EmbeddingReply where
  /-- The model that answered. -/
  model : String
  /-- The vectors. -/
  data : List EmbeddingEntry
  /-- Tokens spent. -/
  usage : Option EmbeddingUsage
deriving DecidableEq, Repr

/-- The vector in a value: an array of numbers or a string. -/
def WrittenVector.ofJson (v : Json) : Except Json.Problem WrittenVector :=
  match (Json.Decoder.list Json.Decoder.single).ofJson v, Json.Decoder.string.ofJson v with
  | .ok values, _ => .ok (.numbers values)
  | _, .ok text => .ok (.packed text)
  | _, _ => .error (.noAlternative "ApiEmbeddingVector")

/-- Reads a vector; it is read as a value first, so a fault in it has no place of its own. -/
def WrittenVector.decoder : Json.Decoder WrittenVector where
  read depth s := do
    let (v, rest) ← Json.readTree depth s
    match ofJson v with
    | .ok vector => .ok (vector, rest)
    | .error p => .error ⟨p, rest, 0, false⟩
  ofJson := ofJson

/-- Reads a vector and its position. -/
def EmbeddingEntry.decoder : Json.Decoder EmbeddingEntry :=
  (Json.Record.make EmbeddingEntry.mk
    |>.orElse "index" .word 0
    |>.required "embedding" WrittenVector.decoder).decoder "struct ApiEmbedding"

/-- Reads the usage. -/
def EmbeddingUsage.decoder : Json.Decoder EmbeddingUsage :=
  (Json.Record.make EmbeddingUsage.mk
    |>.orElse "prompt_tokens" .word 0
    |>.orElse "total_tokens" .word 0).decoder "struct ApiEmbeddingUsage"

/-- Reads an answer. -/
def EmbeddingReply.decoder : Json.Decoder EmbeddingReply :=
  (Json.Record.make EmbeddingReply.mk
    |>.orElse "model" .string ""
    |>.required "data" (.list EmbeddingEntry.decoder)
    |>.optional "usage" EmbeddingUsage.decoder).decoder "struct ApiEmbeddingResponse"

/-- The four bytes of an element, the lowest first. -/
def elementBytes (x : Single) : List UInt8 :=
  [x.bits.toUInt8, (x.bits >>> 8).toUInt8, (x.bits >>> 16).toUInt8, (x.bits >>> 24).toUInt8]

/-- The elements that bytes stand for, four at a time. -/
def elements : List UInt8 → List Single
  | a :: b :: c :: d :: rest =>
    ⟨a.toUInt32 ||| b.toUInt32 <<< 8 ||| c.toUInt32 <<< 16 ||| d.toUInt32 <<< 24⟩ :: elements rest
  | _ => []

/-- The vector of a base 64 text, `elements` of its bytes; their number has to be a multiple of
four. -/
def unpack (text : String) : Except String (List Single) :=
  match Base64.decode (Utf8.encode text.toList) with
  | .error e => .error e.message
  | .ok bytes =>
    if bytes.length % 4 = 0 then .ok (elements bytes)
    else .error s!"{bytes.length} bytes is not a whole number of f32 values"

/-- The vector of an entry: its numbers, or `unpack` of its text. -/
def EmbeddingEntry.toEmbedding (e : EmbeddingEntry) : Except ProviderError Embedding :=
  match e.vector with
  | .numbers values => .ok ⟨e.index, values⟩
  | .packed text =>
    match unpack text with
    | .ok values => .ok ⟨e.index, values⟩
    | .error reason => .error (misunderstood s!"invalid embedding {e.index.toNat}: {reason}")

/-- The answer that stands on the wire, `toEmbedding` each entry, in order of their positions. -/
def EmbeddingReply.toResponse (r : EmbeddingReply) : Except ProviderError EmbeddingResponse := do
  let embeddings ← r.data.mapM EmbeddingEntry.toEmbedding
  .ok
    { model := r.model
      embeddings := embeddings.mergeSort fun a b => a.index ≤ b.index
      usage := r.usage.map fun u => ⟨u.promptTokens, 0, u.totalTokens⟩ }

end Colloquy.Wire
