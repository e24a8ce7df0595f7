import Colloquy.Settings.Basic
import Colloquy.Wire.Endpoint

/-! # The endpoints that settings name

Every section of the settings names a provider, and so does the default.  Each has one endpoint,
whose address is looked up in the settings first and among the well-known ones last. -/

namespace Colloquy

/-- The addresses of well-known providers. -/
def wellKnownUrl? (provider : String) : Option String :=
  [("openai", "https://api.openai.com/v1"), ("openrouter", "https://openrouter.ai/api/v1"),
    ("ollama", "http://localhost:11434/v1"), ("deepseek", "https://api.deepseek.com/v1"),
    ("groq", "https://api.groq.com/openai/v1"), ("together", "https://api.together.xyz/v1"),
    ("fireworks", "https://api.fireworks.ai/inference/v1"), ("vllm", "http://localhost:8000/v1"),
    ("llamacpp", "http://localhost:8080/v1"), ("llama.cpp", "http://localhost:8080/v1")].lookup
    provider

/-- Endpoints by the names of their providers. -/
structure Registry where
  /-- The endpoints. -/
  endpoints : NameMap Wire.Endpoint
  /-- The provider that is used unless another one is asked for. -/
  defaultProvider : String
deriving DecidableEq, Repr

namespace Registry

/-- The endpoint of a provider. -/
def get? (r : Registry) (name : String) : Option Wire.Endpoint := r.endpoints.get? name

/-- The names of all providers, in order. -/
def names (r : Registry) : List String := r.endpoints.names

/-- The endpoint of the default provider. -/
def default (r : Registry) : Except ProviderError Wire.Endpoint :=
  match r.get? r.defaultProvider with
  | some e => .ok e
  | none => .error (.notConfigured r.defaultProvider)

end Registry

namespace Settings

/-- The address of a provider: `base_url` for the default one, then `api_url` of its section, then
`wellKnownUrl?`. -/
def url? (s : Settings) (provider : String) : Option String :=
  (if provider = s.defaultProvider then s.baseUrl else none).or
    (((s.providers.get? provider).bind ProviderSettings.apiUrl).or (wellKnownUrl? provider))

/-- The key of a provider: `api_key` of its section, or else the general `api_key`, or else an empty
one. -/
def key (s : Settings) (provider : String) : String :=
  (((s.providers.get? provider).bind ProviderSettings.apiKey).or s.apiKey).getD ""

/-- The names of all providers, given the names of the sections in some order.  The default provider
comes last unless it has a section, so each name occurs once. -/
def providerNames (s : Settings) (sections : List String) : List String :=
  if (s.providers.get? s.defaultProvider).isSome then sections else sections ++ [s.defaultProvider]

/-- How requests are retried: `RetryPolicy.standard` with the numbers of the section `client`. -/
def retryPolicy (s : Settings) : Http.RetryPolicy :=
  { Http.RetryPolicy.standard with
    maxRetries := s.client.maxRetries
    attemptTimeout := Http.Duration.ofSeconds s.client.attemptTimeoutSecs
    totalTimeout := Http.Duration.ofSeconds s.client.totalTimeoutSecs }

/-- The endpoint of a provider at `url?` with `key`; a provider without an address is
`notConfigured`. -/
def endpoint (s : Settings) (provider : String) : Except ProviderError Wire.Endpoint :=
  match s.url? provider with
  | none =>
    .error (.notConfigured (s!"no api_url configured for provider \"" ++ provider ++ "\""))
  | some url =>
    .ok { Wire.Endpoint.new provider url (s.key provider) with
      headers := s.client.headers.entries
      retry := s.retryPolicy }

/-- The `endpoint` of each of the `providerNames`, the sections being gone through in some order;
the first failure ends it. -/
def registryInOrder (s : Settings) (sections : List String) : Except ProviderError Registry := do
  let endpoints ← (s.providerNames sections).mapM fun name => do .ok (name, ← s.endpoint name)
  .ok ⟨.ofList endpoints, s.defaultProvider⟩

/-- The endpoints of all providers, by `registryInOrder` of the names in their order. -/
def registry (s : Settings) : Except ProviderError Registry := s.registryInOrder s.providers.names

end Settings

end Colloquy
