import Colloquy.Answer.Validator
import Colloquy.Config.Files
import Colloquy.Config.Limits
import Colloquy.Provider.Exchange
import Colloquy.Render
import Colloquy.Trust

/-!
# Agents and their runs

An agent carries a conversation on until there is an answer. It puts the
conversation before a provider, executes the tool calls that come back,
puts the results before the provider, and so on, within limits.

A run is described by how far it has come: the conversation, which only
grows, what the next request will carry, and what has been used up. It
also keeps a record of what was asked and executed, which decides nothing
but how often the provider and the tools are said to have been asked
before.
-/

namespace Colloquy

open Provider (Exchange Item Sampling)
open Tool (Batch Registry Timeline)

/-- **An agent.** -/
structure Agent where
  /-- Who is asked. -/
  provider : Provider
  /-- The tools on offer. -/
  registry : Registry := {}
  /-- The limits of a run. -/
  limits : Limits := .standard
  /-- What tools may add to a conversation. -/
  trust : Trust := {}
  /-- The file system. -/
  files : Files := {}
  /-- The folder that files may come from. -/
  managedRoot : Option String := none
  /-- How many candidates for a structured answer are looked at. -/
  maxAttempts : Nat := 3
  /-- Whether the calls of one response are executed at once. -/
  parallel : Bool := false
  /-- How the model is asked. -/
  sampling : Sampling := {}

/-- **An agent with the settings of a configuration.** -/
def Agent.ofConfig (provider : Provider) (registry : Registry) (files : Files) (c : Config) :
    Except Failure Agent := do
  let limits ← Limits.ofSettings c.runtime
  .ok {
    provider, registry, limits, files
    trust := ⟨c.runtime.allowedAppendTools, c.runtime.allowSystemInserts⟩
    managedRoot := c.managedRoot files
    maxAttempts := c.runtime.structuredOutputMaxAttempts
    parallel := c.runtime.parallelToolCalls
    sampling := c.llm.sampling }

/-- **What is wanted of a run.** -/
structure Task where
  /-- On whose behalf tools are called. -/
  context : Tool.Context := {}
  /-- The form that the answer must have. -/
  responseSchema : Option Json := none
  /-- The key under which the provider caches the prompt. -/
  promptCacheKey : Option String := none
  /-- The response that the first request follows. -/
  previousResponseId : Option String := none

/-- **A run, as far as it has come.** -/
structure Run where
  /-- The conversation. -/
  messages : List Message
  /-- What is new since the last response, after the first one. -/
  followUp : Option (List Item) := none
  /-- The last response that had an id. -/
  responseId : Option String := none
  /-- Who looks at the candidates for a structured answer, if one is
  wanted. -/
  validator : Option Answer.Validator := none
  /-- How many tool calls there were. -/
  callsUsed : Nat := 0
  /-- The tokens used. -/
  usage : Usage.Sum := {}
  /-- What was asked. -/
  exchanges : List Exchange := []
  /-- What was executed. -/
  batches : List Batch := []
  /-- How many milliseconds have passed. -/
  clock : Nat := 0
  /-- What could be seen of the tools. -/
  timeline : Timeline := []

namespace Run

/-- **A run at its beginning.** -/
def start (a : Agent) (t : Task) (messages : List Message) : Run where
  messages := messages
  responseId := t.previousResponseId
  validator := t.responseSchema.map fun _ => .ofAttempts a.maxAttempts

/-- Whether a structured answer is wanted. -/
def structured (r : Run) : Bool := r.validator.isSome

/-- A run with messages added to its conversation. -/
def push (r : Run) (ms : List Message) : Run :=
  { r with messages := r.messages ++ ms }

/-- The tools that were invoked, in order. -/
def invoked (r : Run) : List String :=
  r.batches.flatMap Batch.invoked

/-- The requests that were made, in order. -/
def requests (r : Run) : List Provider.Request :=
  r.exchanges.map Exchange.request

/-- **How a run ends** when nothing fails. -/
inductive Ending where
  /-- With what the model said. -/
  | answered (content : String)
  /-- With a structured answer. -/
  | accepted (answer : Answer)
  /-- Without a structured answer; the attempts are used up. -/
  | gaveUp
  /-- Without an answer; the requests are used up. -/
  | outOfSteps
  /-- Without an answer; the tool calls are used up. -/
  | outOfCalls
deriving Repr, Inhabited

/-- What is answered when the requests are used up. -/
def outOfStepsText : String :=
  "I reached the maximum execution steps before finishing."

/-- What is answered when the tool calls are used up. -/
def outOfCallsText : String :=
  "I reached the maximum number of tool calls before finishing."

/-- **The answer of a run**, in the form that is asked for. -/
def Ending.payload (structured : Bool) : Ending → Json
  | .answered content => .str content
  | .accepted answer => answer.toJson
  | .gaveUp => Answer.fallback
  | .outOfSteps => Answer.ownText structured outOfStepsText
  | .outOfCalls => Answer.ownText structured outOfCallsText

/-- **What is known when a run is over.** -/
structure Report where
  /-- How it ended, or why it failed. -/
  ending : Except Failure Ending
  /-- How far it came. -/
  run : Run

/-- The answer. -/
def Report.payload (r : Report) : Except Failure Json :=
  r.ending.map (Ending.payload r.run.structured)

end Run

end Colloquy
