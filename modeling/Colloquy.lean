import Colloquy.Chat.Script
import Colloquy.Main
import Colloquy.Proofs.Agent.Answer
import Colloquy.Proofs.Agent.Bounds
import Colloquy.Proofs.Agent.Cancellation
import Colloquy.Proofs.Agent.History
import Colloquy.Proofs.Agent.Invocation
import Colloquy.Proofs.Agent.Metering
import Colloquy.Proofs.Agent.Offers
import Colloquy.Proofs.Agent.Rejections
import Colloquy.Proofs.Binary.Base64
import Colloquy.Proofs.Binary.Shortest
import Colloquy.Proofs.Toml.Documents
import Colloquy.Proofs.Calculator.Evaluation
import Colloquy.Proofs.Calculator.Malformed
import Colloquy.Proofs.Chat.Assembly
import Colloquy.Proofs.Chat.Reassembly
import Colloquy.Proofs.Chat.Shaping
import Colloquy.Proofs.Chat.Stored
import Colloquy.Proofs.Chat.Streaming
import Colloquy.Proofs.Command.Secrets
import Colloquy.Proofs.Command.Streamed
import Colloquy.Proofs.Output.Closing
import Colloquy.Proofs.Output.Embedded
import Colloquy.Proofs.Output.Exclusive
import Colloquy.Proofs.Settings.Registry
import Colloquy.Proofs.Settings.Usable
import Colloquy.Proofs.Tool.Stored
import Colloquy.Proofs.Wire.Embedding
import Colloquy.Proofs.Wire.Fragments
import Colloquy.Proofs.Wire.Post
import Colloquy.Proofs.Wire.Turn
import Colloquy.Proofs.Wire.Undecodable
import Colloquy.Proofs.Settings.Stored
