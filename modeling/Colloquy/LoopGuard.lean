import Colloquy.Answer.Payload
import Colloquy.Text.Preview
import Colloquy.Tool.Execution

/-!
# Guarding against loops

A model can get stuck calling the same tools with the same results. The
guard takes a signature of each round of calls – the names of the tools
and the beginnings of their outputs – and trips at the third round in a
row with one signature. What is answered then names the last tools that
were called and the beginning of the last output.
-/

namespace Colloquy

open Tool (Record)

/-- **A guard and what it has seen.** -/
structure LoopGuard where
  /-- The signature of the last round. -/
  lastSignature : Option String := none
  /-- How many rounds in a row had it. -/
  repeats : Nat := 0
  /-- The names of all tools called, in order. -/
  toolNames : List String := []
  /-- The last output. -/
  lastOutput : Option String := none
deriving DecidableEq, Repr, Inhabited

namespace LoopGuard

/-- How many equal rounds trip the guard. -/
def mostRepeats : Nat := 3

/-- How much of an output goes into a signature. -/
def signatureLength : Nat := 240

/-- How much of the last output is quoted. -/
def quotedLength : Nat := 400

/-- How many tools are named. -/
def namedTools : Nat := 4

/-- The output of a record. -/
def output (r : Record) : String :=
  r.payload.toolOutput?.getD ""

/-- The part of a record in a signature. -/
def recordSignature (r : Record) : String :=
  r.toolName ++ ":" ++ Text.firstChars signatureLength (output r)

/-- **The signature of a round.** -/
def signature (round : List Record) : String :=
  "|".intercalate (round.map recordSignature)

/-- **A round is seen.** -/
def observe (g : LoopGuard) (round : List Record) : LoopGuard where
  lastSignature := some (signature round)
  repeats := if g.lastSignature = some (signature round) then g.repeats + 1 else 1
  toolNames := g.toolNames ++ round.map Record.toolName
  lastOutput := (round.getLast?.map output).or g.lastOutput

/-- Whether the guard has tripped. -/
def tripped (g : LoopGuard) : Bool := mostRepeats ≤ g.repeats

/-- The tools that are named. -/
def recentTools (g : LoopGuard) : String :=
  if g.toolNames.isEmpty then "tools"
  else ", ".intercalate (g.toolNames.drop (g.toolNames.length - namedTools))

/-- What is quoted of the last output. -/
def quotedOutput (g : LoopGuard) : String :=
  match g.lastOutput with
  | some s => Text.firstChars quotedLength s
  | none => "no tool output available"

/-- **What is answered when a turn is cut short.** -/
def fallbackText (g : LoopGuard) : String :=
  "I executed tool calls but hit an internal tool-loop safeguard before finalizing. "
    ++ s!"Recent tools: {g.recentTools}. Last tool output: {g.quotedOutput}"

/-- The same, in the form that is asked for. -/
def fallback (g : LoopGuard) (structured : Bool) : Json :=
  Answer.ownText structured g.fallbackText

end LoopGuard

end Colloquy
