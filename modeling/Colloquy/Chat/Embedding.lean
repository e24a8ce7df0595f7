import Colloquy.Usage

/-! # Embeddings

Requests for vectors that stand for texts, and the answers to them. -/

namespace Colloquy

/-- How vectors are written on the wire. -/
inductive EncodingFormat where
  /-- As arrays of numbers. -/
  | float
  /-- As packed bytes in base 64. -/
  | base64
deriving DecidableEq, Repr

namespace EncodingFormat

/-- The written form of an encoding. -/
def name : EncodingFormat → String
  | float => "float"
  | base64 => "base64"

/-- The JSON form of an encoding. -/
def toJson (e : EncodingFormat) : Json := .str e.name

/-- Reads the JSON form of an encoding. -/
def decoder : Json.Decoder EncodingFormat := .names [("float", float), ("base64", base64)]

end EncodingFormat

/-- A request to embed texts. -/
structure EmbeddingRequest where
  /-- The model to use. -/
  model : String
  /-- The texts; one vector comes back for each. -/
  input : List String
  /-- Length of the vectors, for models that can shorten them. -/
  dimensions : Option UInt32
  /-- How the vectors come back. -/
  encodingFormat : Option EncodingFormat
deriving DecidableEq, Repr

/-- One vector, with the position of its text. -/
structure Embedding where
  /-- Position of the text. -/
  index : UInt32
  /-- The vector. -/
  vector : List Single
deriving DecidableEq, Repr

/-- The answer to a request to embed texts. -/
structure EmbeddingResponse where
  /-- The model that answered. -/
  model : String
  /-- The vectors, ordered by position. -/
  embeddings : List Embedding
  /-- Tokens spent. -/
  usage : Option Usage
deriving DecidableEq, Repr

namespace Embedding

/-- The JSON form of a vector. -/
def toJson (e : Embedding) : Json :=
  .obj [("index", .ofUInt32 e.index), ("vector", .arr (e.vector.map .ofSingle))]

/-- The fields of a vector. -/
def record : Json.Record Embedding :=
  Json.Record.make Embedding.mk
    |>.required "index" .word
    |>.required "vector" (.list .single)

/-- Reads the JSON form of a vector. -/
def decoder : Json.Decoder Embedding := record.decoder "struct Embedding"

end Embedding

namespace EmbeddingResponse

/-- The JSON form of an answer. -/
def toJson (r : EmbeddingResponse) : Json :=
  .obj ([("embeddings", .arr (r.embeddings.map Embedding.toJson)), ("model", .str r.model)] ++
    Json.optional "usage" (r.usage.map Usage.toJson))

/-- The fields of an answer. -/
def record : Json.Record EmbeddingResponse :=
  Json.Record.make EmbeddingResponse.mk
    |>.required "model" .string
    |>.required "embeddings" (.list Embedding.decoder)
    |>.optional "usage" Usage.decoder

/-- Reads the JSON form of an answer. -/
def decoder : Json.Decoder EmbeddingResponse := record.decoder "struct EmbeddingResponse"

end EmbeddingResponse

end Colloquy
