import Colloquy.Decimal.Digits
import Colloquy.Message.Basic

/-!
# Tools

A tool is a definition, which a provider is told, and a handler. A handler
sees the arguments of the call and on whose behalf the conversation is
held, and may depend on how often the tool was called before. It does not
touch the conversation: what it wants to have changed it asks for with
directives.

What a handler does is described by its `Conduct`: how long it sleeps, if
it does, and how it ends. Time is counted in milliseconds and passes only
in sleeps.
-/

namespace Colloquy.Tool

/-- **What a provider is told about a tool.** -/
structure Definition where
  /-- The name the model calls it by. -/
  name : String
  /-- What it does. -/
  description : String
  /-- What arguments it takes, as a JSON schema. -/
  parameters : Json
deriving Repr, BEq, Inhabited

/-- A definition as JSON. -/
def Definition.toJson (d : Definition) : Json :=
  .ofFields
    [("name", .str d.name), ("description", .str d.description), ("parameters", d.parameters)]

/-- **On whose behalf a conversation is held.** -/
structure Context where
  /-- Who owns the data that tools act on. -/
  ownerId : Option String := none
  /-- The channel the conversation takes place in. -/
  channel : Option String := none
  /-- The conversation within its channel. -/
  chatId : Option String := none
  /-- The person. -/
  userId : Option String := none
deriving DecidableEq, Repr, Inhabited

/-- **What a tool answers.** -/
structure Result where
  /-- What the model is told. -/
  content : Json
  /-- What is asked for besides. -/
  directives : List Directive := []
deriving Repr, BEq, Inhabited

/-- **How a handler ends.** -/
inductive Ending where
  /-- With a result. -/
  | finished (result : Result)
  /-- With a failure of its own. -/
  | failed (failure : Failure)
  /-- By breaking down, perhaps with a message. -/
  | brokeDown (message : Option String)
deriving Repr, BEq, Inhabited

/-- **What a handler does.** -/
structure Conduct where
  /-- For how many milliseconds it sleeps first. -/
  sleep : Nat := 0
  /-- How it ends. -/
  ending : Ending
deriving Repr, BEq, Inhabited

/-- **What a handler is given.** -/
structure Invocation where
  /-- How often the tool was called before. -/
  earlier : Nat
  /-- The arguments. -/
  arguments : Json.Fields
  /-- On whose behalf. -/
  context : Context

/-- The failure of a tool that broke down. -/
def breakdown (name reason : String) : Failure :=
  ⟨.executionFailed, s!"tool {name} panicked: {reason}"⟩

/-- **How a handler's ending counts**: a handler that breaks down fails. -/
def Ending.outcome (name : String) : Ending → Except Failure Result
  | .finished result => .ok result
  | .failed failure => .error failure
  | .brokeDown message => .error (breakdown name (message.getD "unknown panic"))

end Tool

/-- **A tool.** -/
structure Tool where
  /-- What a provider is told about it. -/
  definition : Tool.Definition
  /-- What it does when it is called. -/
  handler : Tool.Invocation → Tool.Conduct

namespace Tool

/-- The name of a tool. -/
def name (t : Tool) : String := t.definition.name

/-- **The text of a result that the model is told**: strings as they are,
everything else as compact JSON. -/
def resultText : Json → String
  | .str s => s
  | v => v.compact

/-- **What the model is told about a failure.** -/
def Failure.result (tool : String) (f : Failure) : Result where
  content :=
    .ofFields
      [("ok", .bool false), ("tool", .str tool), ("error_code", .str f.kind.code),
       ("error", .str f.message)]

end Tool

end Colloquy
