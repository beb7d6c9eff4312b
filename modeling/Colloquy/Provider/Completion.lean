import Colloquy.Provider.Failure
import Colloquy.Provider.Request
import Colloquy.Usage

/-!
# Providers

A provider answers requests one after the other, each with a completion or
a failure, after some delay. It is described by what it replies to the
n-th request that is made of it, so that everything said about a run holds
for whatever a provider may do.

A script is a provider whose replies are written down beforehand.
-/

namespace Colloquy

namespace Provider

/-- **A completion**: what the model says, the tool calls it asks for, and
what the provider says about the response. -/
structure Completion where
  /-- What the model says. -/
  content : String := ""
  /-- The calls it asks for. -/
  toolCalls : List ToolCall := []
  /-- The id by which a later request can name this response. -/
  responseId : Option String := none
  /-- The tokens it took, and how it ended. -/
  usage : Usage := {}
deriving Repr, BEq, Inhabited

/-- Whether the model asks for calls. -/
def Completion.hasToolCalls (c : Completion) : Bool := !c.toolCalls.isEmpty

/-- What a request comes to. -/
abbrev Outcome := Except Failure Completion

/-- **A reply.** -/
structure Reply where
  /-- How many milliseconds it takes. -/
  delay : Nat := 0
  /-- What it says. -/
  outcome : Outcome

end Provider

/-- **A provider.** -/
structure Provider where
  /-- The family it belongs to. -/
  mode : Provider.Mode
  /-- What it replies to a request, given how many were made before. -/
  reply : Nat → Provider.Request → Provider.Reply

namespace Provider

/-- **Replies written down beforehand**, and one for all requests that
come after them. -/
structure Script where
  /-- The replies, in order. -/
  outcomes : List Outcome := []
  /-- The reply when there are no more. -/
  further : Option Completion := none

/-- The failure of a script that is at its end. -/
def Script.exhausted : Failure := ⟨.unknown, "script exhausted"⟩

/-- **What a script replies** to the request before which so many were
made. -/
def Script.outcome (s : Script) (earlier : Nat) : Outcome :=
  match s.outcomes[earlier]?, s.further with
  | some outcome, _ => outcome
  | none, some completion => .ok completion
  | none, none => .error exhausted

/-- **A provider that follows a script**, with the same delay each time. -/
def ofScript (mode : Mode) (delay : Nat) (s : Script) : Provider where
  mode := mode
  reply earlier _ := { delay, outcome := s.outcome earlier }

/-- The name of providers that follow a script. -/
def scriptName : String := "scripted"

end Provider

end Colloquy
