import Colloquy.Text.Quoted
import Colloquy.Tool.Basic

/-!
# The tools at hand

A registry holds at most one tool of a name, the one registered last. It
lists its tools by name, so that requests which offer the same tools look
the same, in whatever order the tools were registered.
-/

namespace Colloquy.Tool

/-- **The tools at hand**, in the order of their names. -/
structure Registry where
  /-- The tools. -/
  tools : List Tool := []

namespace Registry

/-- A tool put among others that are in the order of their names; one of
the same name is replaced. -/
def place (t : Tool) : List Tool → List Tool
  | [] => [t]
  | u :: us =>
    if t.name = u.name then t :: us
    else if t.name < u.name then t :: u :: us
    else u :: place t us

/-- **Registering a tool.** -/
def register (r : Registry) (t : Tool) : Registry where
  tools := place t r.tools

/-- The registry of a list of tools. -/
def ofList (ts : List Tool) : Registry :=
  ts.foldl register {}

/-- The tool of a name. -/
def find? (r : Registry) (name : String) : Option Tool :=
  r.tools.find? fun t => t.name == name

/-- Whether there is a tool of a name. -/
def has (r : Registry) (name : String) : Bool :=
  (r.find? name).isSome

/-- How many tools there are. -/
def size (r : Registry) : Nat := r.tools.length

/-- Whether there are no tools. -/
def isEmpty (r : Registry) : Bool := r.tools.isEmpty

/-- The names of the tools, in order. -/
def names (r : Registry) : List String := r.tools.map Tool.name

/-- **What providers are told**, in the order of the names. -/
def definitions (r : Registry) : List Definition := r.tools.map Tool.definition

/-- A registry as shown to developers. -/
def inspect (r : Registry) : String :=
  "ToolRegistry \x7b tools: [" ++ ", ".intercalate (r.names.map Text.quoted) ++ "] \x7d"

end Registry

/-- A tool as shown to developers. -/
def inspect (t : Tool) : String :=
  "ToolBinding \x7b name: " ++ Text.quoted t.name ++ " \x7d"

end Colloquy.Tool
