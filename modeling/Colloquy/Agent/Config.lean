import Colloquy.Error

/-! # Agent settings

The settings of an agent, their defaults, and what makes them unusable. -/

namespace Colloquy

/-- How an agent behaves. -/
structure AgentConfig where
  /-- Most rounds with the model in a run. -/
  maxIterations : UInt32
  /-- Retries of a tool that has no number of its own. -/
  retries : UInt32
  /-- Retries of rejected answers; where absent, `retries` counts. -/
  outputRetries : Option UInt32
  /-- Randomness of the sampling. -/
  temperature : Option Single
  /-- Most tokens of a response. -/
  maxTokens : Option UInt32
deriving DecidableEq, Repr

namespace AgentConfig

/-- Ten rounds, one retry, nothing else set. -/
def standard : AgentConfig := ⟨10, 1, none, none, none⟩

/-- How many rejected answers a run survives: `outputRetries`, or else `retries`. -/
def outputBudget (c : AgentConfig) : UInt32 := c.outputRetries.getD c.retries

/-- Refuse settings with which no run can work: `maxIterations = 0`, or a temperature outside `0 ≤ t
≤ 2`, which a not-a-number is too. -/
def validate (c : AgentConfig) : Except Error Unit :=
  if c.maxIterations = 0 then .error (.config "max_iterations must be at least 1")
  else
    match c.temperature with
    | some t =>
      if t.between 0 2 then .ok ()
      else .error (.config "temperature must be between 0.0 and 2.0")
    | none => .ok ()

/-- The JSON form of settings. -/
def toJson (c : AgentConfig) : Json :=
  .obj ([("max_iterations", .ofUInt32 c.maxIterations), ("retries", .ofUInt32 c.retries)] ++
    Json.optional "output_retries" (c.outputRetries.map .ofUInt32) ++
    Json.optional "temperature" (c.temperature.map .ofSingle) ++
    Json.optional "max_tokens" (c.maxTokens.map .ofUInt32))

/-- The fields of settings. -/
def record : Json.Record AgentConfig :=
  Json.Record.make AgentConfig.mk
    |>.orElse "max_iterations" .word 10
    |>.orElse "retries" .word 1
    |>.optional "output_retries" .word
    |>.optional "temperature" .single
    |>.optional "max_tokens" .word

/-- Reads the JSON form of settings. -/
def decoder : Json.Decoder AgentConfig := record.decoder "struct AgentConfig"

end AgentConfig

end Colloquy
