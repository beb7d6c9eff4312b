import Colloquy.Config.Files
import Colloquy.LoopGuard
import Colloquy.Provider.Exchange

/-!
# Turns

A turn answers one question. Its conversation is built anew from the
history and the question and is forgotten when the turn is over; what
remains is the answer and what it cost.

Tools may be called in a limited number of rounds, and rounds that repeat
themselves end the turn early. A provider that cannot keep to the form
that is asked for is asked again without it, and for the rest of the turn
no form is asked for.
-/

namespace Colloquy

open Provider (Exchange Item Sampling)
open Tool (Batch Registry)

/-- **Who answers questions.** -/
structure Responder where
  /-- Who is asked. -/
  provider : Provider
  /-- What stands above every conversation. -/
  systemPrompt : String := "You are Relaybot, a helpful assistant."
  /-- How many rounds of tool calls there may be. -/
  maxRounds : Nat := 8
  /-- Whether keys for the prompt cache are passed on. -/
  promptCache : Bool := true
  /-- Whether the calls of one response are executed at once. -/
  parallel : Bool := false
  /-- How the model is asked. -/
  sampling : Sampling := {}

/-- **A responder with the settings of a configuration.** -/
def Responder.ofConfig (provider : Provider) (files : Files) (c : Config) :
    Except Failure Responder := do
  let systemPrompt ← c.systemPrompt files
  .ok {
    provider, systemPrompt
    maxRounds := c.runtime.maxToolIterations
    promptCache := c.llm.promptCacheEnabled
    parallel := c.runtime.parallelToolCalls
    sampling := c.llm.sampling }

/-- **What was said before.** -/
structure Remark where
  /-- Who said it. -/
  role : Role
  /-- What was said. -/
  content : String
deriving DecidableEq, Repr, Inhabited

/-- **A question.** -/
structure Question where
  /-- What was said before, in order. -/
  history : List Remark := []
  /-- The question. -/
  text : String
  /-- The question in the provider's own form, sent in place of the text. -/
  rawContent : Option Json := none
  /-- The tools on offer. -/
  tools : Option Registry := none
  /-- On whose behalf tools are called. -/
  context : Tool.Context := {}
  /-- The form that the answer must have. -/
  responseSchema : Option Json := none
  /-- The key under which the provider caches the prompt. -/
  promptCacheKey : Option String := none
  /-- The response that the first request follows. -/
  previousResponseId : Option String := none
  /-- What stands above the conversation this time. -/
  systemPrompt : Option String := none

/-- The tools on offer, if there are any. -/
def Question.offered (q : Question) : Option Registry :=
  q.tools.filter fun r => !r.isEmpty

/-- **A turn, as far as it has come.** -/
structure Turn where
  /-- What the next request carries. -/
  conversation : List Item
  /-- The response that the next request follows. -/
  chainId : Option String := none
  /-- The form that is asked for. -/
  schema : Option Json := none
  /-- The tokens used. -/
  usage : Usage.Sum := {}
  /-- Who watches for repetitions. -/
  guard : LoopGuard := {}
  /-- What was asked. -/
  exchanges : List Exchange := []
  /-- What was executed. -/
  batches : List Batch := []

/-- **An answer and what it cost.** -/
structure Generation where
  /-- The answer: a text, or a JSON value if a form was asked for. -/
  payload : Json
  /-- The response that it came with. -/
  responseId : Option String
  /-- The tokens used. -/
  usage : Usage.Sum
  /-- How the last response ended. -/
  status : Option String := none
  /-- Why it is incomplete. -/
  incompleteReason : Option String := none
deriving Repr, BEq, Inhabited

namespace Turn

/-- The tools that were invoked, in order. -/
def invoked (t : Turn) : List String :=
  t.batches.flatMap Batch.invoked

/-- The requests that were made, in order. -/
def requests (t : Turn) : List Provider.Request :=
  t.exchanges.map Exchange.request

/-- **What is known when a turn is over.** -/
structure Report where
  /-- What was answered, or why the turn failed. -/
  outcome : Except Failure Generation
  /-- How far it came. -/
  turn : Turn

end Turn

end Colloquy
