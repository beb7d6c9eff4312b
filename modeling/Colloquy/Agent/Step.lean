import Colloquy.Agent.Basic

/-!
# The steps of a run

A step is one request and everything up to the next one. A response that
asks for tool calls has them executed, all of them or, if there would be
too many in the run, none. A response that asks for none is the answer;
where a structured answer is wanted it is a candidate, and the model is
told what is wrong with it.

A response must have come, and tools must be done, by the deadline, if
there is one. A run that is late fails, and nothing of what it was waiting
for is kept.
-/

namespace Colloquy

open Provider (Completion Item Outcome Request)
open Tool (Batch Record)

/-- **The message that tells of a call's result.** -/
def Tool.Record.message (record : Record) : Message :=
  match record.result.content with
  | .str s => .toolText record.callId record.toolName s
  | v => .toolJson record.callId record.toolName v

namespace Run

/-- **What comes after a step.** -/
inductive Next where
  /-- Another step. -/
  | step (run : Run)
  /-- The end. -/
  | over (report : Report)

/-- The end of a run. -/
def ends (r : Run) (e : Ending) : Next := .over ⟨.ok e, r⟩

/-- The failure of a run. -/
def fails (r : Run) (f : Failure) : Next := .over ⟨.error f, r⟩

/-- A run that has waited for a reply until some time. -/
def await (r : Run) (request : Request) (outcome : Option Outcome) (time : Nat) : Run :=
  { r with exchanges := r.exchanges ++ [⟨request, outcome⟩], clock := time }

/-- What a response says about itself is taken down. -/
def account (r : Run) (c : Completion) : Run :=
  { r with usage := r.usage.add c.usage, responseId := c.responseId.or r.responseId }

/-- A sum of calls that stops at the greatest number of thirty-two bits. -/
def plusCalls (m n : Nat) : Nat := min (m + n) Limits.greatestCalls

/-- Calls are counted. -/
def countCalls (r : Run) (c : Completion) : Run :=
  { r with callsUsed := plusCalls r.callsUsed c.toolCalls.length }

/-- **Calls that are done**, and what the conversation and the next request
get from them. -/
def finishCalls (r : Run) (batch : Batch) (messages : List Message) (items : List Item) : Run :=
  { r.push messages with
    followUp := some items
    batches := r.batches ++ [batch]
    clock := r.clock + batch.duration
    timeline := r.timeline ++ batch.timeline.later r.clock }

/-- **Calls that are not done by some time**: what can be seen of them is
what happened up to then. -/
def abandonCalls (r : Run) (batch : Batch) (time : Nat) : Run :=
  { r with
    clock := time
    timeline := r.timeline ++ (batch.timeline.later r.clock).upTo time }

end Run

namespace Agent

/-- How the agent puts messages before its provider. -/
def renderer (a : Agent) : Renderer :=
  .make a.provider.mode a.files a.managedRoot

/-- **What a request carries**: only what is new where the provider keeps
the conversation, otherwise all of it. -/
def outgoing (a : Agent) (r : Run) : List Item :=
  match a.provider.mode, r.responseId, r.followUp with
  | .responses, some _, some items => items
  | _, _, _ => a.renderer.items r.messages

/-- **The next request.** -/
def request (a : Agent) (t : Task) (r : Run) : Request where
  messages := a.outgoing r
  instructions := instructions r.messages
  tools := a.registry.definitions
  responseSchema := t.responseSchema
  promptCacheKey := t.promptCacheKey
  previousResponseId := r.responseId
  sampling := a.sampling

/-- The deadline, if a time is past it. -/
def missed? (deadline : Option Nat) (time : Nat) : Option Nat :=
  deadline.filter fun d => d < time

/-- The failure of a run that takes too long. -/
def tooLate (a : Agent) : Failure := .timeout a.limits.timeoutSecs

/-- **What a record adds to the conversation**: the result, and what the
tool may add with it. -/
def recordMessages (a : Agent) (record : Record) : List Message :=
  record.message :: a.trust.admitted record

/-- The same, in the provider's form. -/
def recordItems (a : Agent) (record : Record) : List Item :=
  record.payload :: a.renderer.items (a.trust.admitted record)

/-- The calls of a response, executed. -/
def execute (a : Agent) (t : Task) (r : Run) (c : Completion) : Batch :=
  Tool.execute a.provider.mode a.parallel a.registry t.context r.invoked c.toolCalls

/-- **What a response that asks for calls adds to the conversation.** -/
def callMessages (a : Agent) (c : Completion) (batch : Batch) : List Message :=
  .assistantWithCalls c.content c.toolCalls :: batch.records.flatMap a.recordMessages

/-- **A response that asks for calls.** -/
def receiveCalls (a : Agent) (t : Task) (deadline : Option Nat) (r : Run) (c : Completion) :
    Run.Next :=
  let r := r.countCalls c
  if a.limits.maxToolCalls < r.callsUsed then r.ends .outOfCalls
  else
    let batch := a.execute t r c
    match missed? deadline (r.clock + batch.duration) with
    | some time => (r.abandonCalls batch time).fails a.tooLate
    | none =>
      .step (r.finishCalls batch (a.callMessages c batch) (batch.records.flatMap a.recordItems))

/-- The model is told what is wrong with its candidate. -/
def askAgain (a : Agent) (r : Run) (rejection : Answer.Rejection) : Run :=
  let prompt := Message.user rejection.prompt
  { r.push [prompt] with followUp := some (a.renderer.items [prompt]) }

/-- **A response that asks for no calls.** -/
def receiveAnswer (a : Agent) (r : Run) (c : Completion) : Run.Next :=
  let r := r.push [.assistant c.content]
  match r.validator with
  | none => r.ends (.answered c.content)
  | some validator =>
    let (validator, verdict) := validator.receive c.content
    let r := { r with validator := some validator }
    match verdict with
    | .valid answer _ => r.ends (.accepted answer)
    | .retry rejection _ => .step (a.askAgain r rejection)
    | .fail _ _ _ => r.ends .gaveUp

/-- **A response.** -/
def receive (a : Agent) (t : Task) (deadline : Option Nat) (r : Run) (c : Completion) : Run.Next :=
  let r := r.account c
  if c.hasToolCalls then a.receiveCalls t deadline r c else a.receiveAnswer r c

/-- **A step.** -/
def step (a : Agent) (t : Task) (deadline : Option Nat) (r : Run) : Run.Next :=
  let request := a.request t r
  let reply := a.provider.reply r.exchanges.length request
  match missed? deadline (r.clock + reply.delay) with
  | some time => (r.await request none time).fails a.tooLate
  | none =>
    let r := r.await request (some reply.outcome) (r.clock + reply.delay)
    match reply.outcome with
    | .error failure => r.fails (.request failure)
    | .ok c => a.receive t deadline r c

end Agent

end Colloquy
