/-!
# Failures of a tool call

A failed call never ends a conversation: the model is told about it in the
place of a result, with a code that says what kind of failure it was.
-/

namespace Colloquy.Tool

/-- **Kinds of failure.** -/
inductive Failure.Kind where
  /-- The arguments are no object, or not the right one. -/
  | invalidArguments
  /-- The tool failed, broke down or does not exist. -/
  | executionFailed
  /-- A classifier answered with something invalid. -/
  | classifierInvalidPayload
  /-- A planner chose an agent that does not exist. -/
  | plannerInvalidAgent
deriving DecidableEq, Repr, Inhabited

/-- The code that tells the model the kind of a failure. -/
def Failure.Kind.code : Failure.Kind → String
  | .invalidArguments => "invalid_tool_arguments"
  | .executionFailed => "tool_execution_failed"
  | .classifierInvalidPayload => "classifier_invalid_payload"
  | .plannerInvalidAgent => "planner_invalid_agent"

/-- The kinds by their codes. -/
def Failure.Kind.ofCode? (code : String) : Option Failure.Kind :=
  [.invalidArguments, .executionFailed, .classifierInvalidPayload,
    .plannerInvalidAgent].find? fun kind => kind.code == code

/-- **A failed tool call.** -/
structure Failure where
  /-- What kind of failure it is. -/
  kind : Failure.Kind
  /-- What the model is told about it. -/
  message : String
deriving DecidableEq, Repr, Inhabited

end Colloquy.Tool
