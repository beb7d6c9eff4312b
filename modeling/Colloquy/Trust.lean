import Colloquy.Tool.Execution

/-!
# Trust

What tools may do to a conversation. A tool answers its call; everything
beyond that it can only ask for, and it is trusted only if it is named.
Instructions are trusted separately. A message that is let in is marked,
so that it can always be told from what people and models said; the marks
replace any of the same name that the tool has made itself.
-/

namespace Colloquy

open Tool (Record)

/-- **Which tools are trusted, and how far.** -/
structure Trust where
  /-- The tools that may add messages. -/
  tools : List String := []
  /-- Whether they may add instructions, too. -/
  systemInserts : Bool := false
deriving DecidableEq, Repr, Inhabited

namespace Trust

/-- Whether a message that a tool wants to add is let in. -/
def allows (t : Trust) (tool : String) (m : Message) : Bool :=
  t.tools.contains tool && (m.role != .system || t.systemInserts)

/-- A message marked as coming from a tool. -/
def mark (tool : String) (m : Message) : Message :=
  (m.note "synthetic" (.bool true)).note "source_tool" (.str tool)

/-- **The message that a directive adds**, if the tool is trusted with it. -/
def admit? (t : Trust) (tool : String) : Directive → Option Message
  | .append m => if t.allows tool m then some (mark tool m) else none

/-- **The messages that a tool may add** with the result of a call. -/
def admitted (t : Trust) (r : Record) : List Message :=
  r.result.directives.filterMap (t.admit? r.toolName)

end Trust

end Colloquy
