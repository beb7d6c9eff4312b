import Colloquy.Agent.Run
import Colloquy.Answer.Validator
import Colloquy.Arguments
import Colloquy.Config.Check
import Colloquy.Config.Files
import Colloquy.Config.Limits
import Colloquy.Log.Redaction
import Colloquy.Log.Sanitize
import Colloquy.LoopGuard
import Colloquy.Message.Codec
import Colloquy.Proofs.Agent.CallBudget
import Colloquy.Proofs.Agent.Conclusion
import Colloquy.Proofs.Agent.Context
import Colloquy.Proofs.Agent.Deadline
import Colloquy.Proofs.Agent.Directives
import Colloquy.Proofs.Agent.Growth
import Colloquy.Proofs.Agent.Transcript
import Colloquy.Proofs.Answer.Idempotence
import Colloquy.Proofs.Arguments.Fenced
import Colloquy.Proofs.Arguments.Literals
import Colloquy.Proofs.Arguments.Repair
import Colloquy.Proofs.Arguments.Replay
import Colloquy.Proofs.Config.Checked
import Colloquy.Proofs.Config.Signatures
import Colloquy.Proofs.Config.Suggestions
import Colloquy.Proofs.Correlation
import Colloquy.Proofs.DictLiteral.Strict
import Colloquy.Proofs.Log.Bounds
import Colloquy.Proofs.Log.RenderedFiles
import Colloquy.Proofs.Log.Secrets
import Colloquy.Proofs.LoopGuard.Signatures
import Colloquy.Proofs.ManagedFiles
import Colloquy.Proofs.Message.RoundTrip
import Colloquy.Proofs.MissingFolder
import Colloquy.Proofs.Offers
import Colloquy.Proofs.Tool.Interleaving
import Colloquy.Proofs.Turn.Agreement
import Colloquy.Proofs.Turn.Continuation
import Colloquy.Proofs.Usage.Counters
import Colloquy.Proofs.Usage.Payload
import Colloquy.Provider.Cache
import Colloquy.Provider.Completion
import Colloquy.Render
import Colloquy.Tool.Execution
import Colloquy.Turn.Answer
import Colloquy.Usage
