import Colloquy.Fence
import Colloquy.Turn.Basic

/-!
# Answering a question

The rounds of a turn. A response that asks for tool calls, of which there
are some on offer, begins a round: the calls are executed and their
outputs are put before the provider. Any other response is the answer. If
it was cut off at its length limit and has an id, one more request asks
for the rest.
-/

namespace Colloquy

open Provider (Completion Item Outcome Request)
open Tool (Batch Record)

/-- The id of a response whose rest can be asked for. -/
def Provider.Completion.unfinished? (c : Completion) : Option String :=
  if c.usage.cutOff then c.responseId else none

/-- What a question is sent as. -/
def Question.item (q : Question) : Item :=
  .message .user
    (match q.rawContent with
     | some v => .raw v
     | none => .text q.text)
    []

namespace Turn

/-- **The payload of an answer**: its JSON value, perhaps in a fence, if a
form is asked for; a text that is no JSON stays a text. -/
def payload (t : Turn) (text : String) : Json :=
  if t.schema.isSome then
    match Fence.readFenced text with
    | .ok v => v
    | .error _ => .str text
  else .str text

/-- **The end of a turn with an answer**, of which the last response is
given. -/
def conclude (t : Turn) (text : String) (responseId : Option String) (last : Completion) :
    Report where
  outcome :=
    .ok {
      payload := t.payload text, responseId, usage := t.usage
      status := last.usage.status, incompleteReason := last.usage.incompleteReason }
  turn := t

/-- **A turn cut short**: what it has come to is told instead of an
answer. -/
def cutShort (t : Turn) (c : Completion) : Report where
  outcome :=
    .ok {
      payload := t.guard.fallback t.schema.isSome, responseId := c.responseId
      usage := t.usage }
  turn := t

/-- The failure of a turn. -/
def fails (t : Turn) (failure : Provider.Failure) : Report :=
  ⟨.error (.request failure), t⟩

/-- A turn in which a batch was executed. -/
def executed (t : Turn) (batch : Batch) : Turn :=
  { t with batches := t.batches ++ [batch], guard := t.guard.observe batch.records }

end Turn

namespace Responder

/-- **What stands above the conversation.** Blank text does not count. -/
def prompt (a : Responder) (q : Question) : Option String :=
  (some (q.systemPrompt.getD a.systemPrompt)).filter fun s => !Text.isBlankText s

/-- **The conversation at the beginning.** A chat provider is sent the
system prompt as its first entry. -/
def opening (a : Responder) (q : Question) : List Item :=
  (match a.provider.mode with
   | .chatCompletions => ((a.prompt q).map (Item.ofText .system)).toList
   | .responses => [])
    ++ q.history.map (fun r => .ofText r.role r.content)
    ++ [q.item]

/-- **A turn at its beginning.** -/
def start (a : Responder) (q : Question) : Turn where
  conversation := a.opening q
  chainId := q.previousResponseId
  schema := q.responseSchema

/-- **A request.** A responses provider is sent the system prompt as
instructions. -/
def request (a : Responder) (q : Question) (t : Turn) (messages : List Item)
    (tools : List Tool.Definition) (previousResponseId : Option String) : Request where
  messages := messages
  instructions :=
    match a.provider.mode with
    | .chatCompletions => none
    | .responses => a.prompt q
  tools := tools
  responseSchema := t.schema
  promptCacheKey := q.promptCacheKey.filter fun _ => a.promptCache
  previousResponseId := previousResponseId
  sampling := a.sampling

/-- The next request of a round. -/
def roundRequest (a : Responder) (q : Question) (t : Turn) : Request :=
  a.request q t t.conversation ((q.offered.map Tool.Registry.definitions).getD []) t.chainId

/-- What asks for the rest of an answer. -/
def continuationPrompt : String :=
  "Continue exactly where you left off. Do not repeat."

/-- The request for the rest of an answer. -/
def continuationRequest (a : Responder) (q : Question) (t : Turn) (responseId : String) :
    Request :=
  a.request q t [.ofText .user continuationPrompt] [] (some responseId)

/-- **The provider is asked.** What is used for a completion is added up. -/
def ask (a : Responder) (t : Turn) (request : Request) : Turn × Outcome :=
  let outcome := (a.provider.reply t.exchanges.length request).outcome
  let t := { t with exchanges := t.exchanges ++ [⟨request, some outcome⟩] }
  match outcome with
  | .ok c => ({ t with usage := t.usage.add c.usage }, .ok c)
  | .error failure => (t, .error failure)

/-- **The provider is asked for the next response**, and asked again
without a form if the form is what it cannot do. -/
def complete (a : Responder) (q : Question) (t : Turn) : Turn × Outcome :=
  let request := a.roundRequest q t
  match a.ask t request with
  | (t, .ok c) => (t, .ok c)
  | (t, .error failure) =>
    if t.schema.isSome && failure.rejectsSchema then
      a.ask { t with schema := none } { request with responseSchema := none }
    else (t, .error failure)

/-- **A response that is the answer.** -/
def finish (a : Responder) (q : Question) (t : Turn) (c : Completion) : Turn.Report :=
  match c.unfinished? with
  | none => t.conclude c.content c.responseId c
  | some id =>
    match a.ask t (a.continuationRequest q t id) with
    | (t, .ok rest) => t.conclude (c.content ++ rest.content) (rest.responseId.or (some id)) rest
    | (t, .error failure) => t.fails failure

/-- **What the provider is told about a round.** A provider that keeps the
conversation is only sent the outputs. -/
def carryOn (a : Responder) (t : Turn) (c : Completion) (outputs : List Item) : Turn :=
  match a.provider.mode, c.responseId with
  | .responses, some id => { t with chainId := some id, conversation := outputs }
  | _, _ =>
    { t with
      conversation :=
        t.conversation ++ .message .assistant (.text c.content) c.toolCalls :: outputs }

/-- The calls of a response, executed. -/
def execute (a : Responder) (q : Question) (registry : Tool.Registry) (t : Turn)
    (c : Completion) : Batch :=
  Tool.execute a.provider.mode a.parallel registry q.context t.invoked c.toolCalls

/-- **Rounds**, so many of which may be followed by another one. -/
def rounds (a : Responder) (q : Question) : Nat → Turn → Turn.Report
  | further, t =>
    match a.complete q t with
    | (t, .error failure) => t.fails failure
    | (t, .ok c) =>
      match q.offered with
      | none => a.finish q t c
      | some registry =>
        if c.hasToolCalls then
          let batch := a.execute q registry t c
          let t := t.executed batch
          if t.guard.tripped then t.cutShort c
          else
            match further with
            | 0 => t.cutShort c
            | n + 1 => rounds a q n (a.carryOn t c (batch.records.map Record.payload))
        else a.finish q t c

/-- **A turn.** There is one round at least. -/
def answer (a : Responder) (q : Question) : Turn.Report :=
  a.rounds q (a.maxRounds - 1) (a.start q)

end Responder

end Colloquy
