import Colloquy.Provider.Failure

/-!
# Failures

What can make a conversation, or its preparation, fail. Failures of tools
are not among them.
-/

namespace Colloquy

/-- **Failures.** -/
inductive Failure where
  /-- Something is wrong with the configuration. -/
  | config (message : String)
  /-- Something is wrong with a provider, other than a failed request. -/
  | provider (message : String)
  /-- A request to a provider failed. -/
  | request (failure : Provider.Failure)
  /-- Something is wrong with the tools. -/
  | tool (message : String)
  /-- The conversation took longer than it may. -/
  | timeout (seconds : Nat)
  /-- A file could not be read or written. -/
  | files (message : String)
  /-- A text is no JSON, or not the right one. -/
  | json (message : String)
deriving DecidableEq, Repr, Inhabited

/-- The report of a failure. -/
def Failure.message : Failure → String
  | .config message => s!"Configuration error: {message}"
  | .provider message => s!"Provider error: {message}"
  | .request failure => s!"Provider error: {failure.report}"
  | .tool message => s!"Tool error: {message}"
  | .timeout seconds => s!"Run timed out after {seconds}s"
  | .files message => s!"IO error: {message}"
  | .json message => s!"JSON error: {message}"

end Colloquy
