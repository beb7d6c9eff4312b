import Colloquy.Provider.Request
import Colloquy.Tool.Registry

/-!
# Executing tool calls

The calls of one response are executed one after the other or all at once,
and there is one record for each of them, in the order of the calls. No
call fails the others: whatever goes wrong with one – no name, no
readable arguments, no such tool, a failure or breakdown of the handler –
becomes the result that the model is told.

Besides the records a batch notes which tools were invoked and when each
of them started and finished, in milliseconds from the beginning of the
batch. Calls that are executed at once all start at the beginning, in
their order; they finish when they are done, in the order of the calls
where several are done at the same time.
-/

namespace Colloquy.Tool

open Provider (Mode Item)

/-- **What can be seen of a handler at work.** -/
inductive Event where
  /-- A tool starts. -/
  | started (tool : String)
  /-- A tool finishes with a result. -/
  | finished (tool : String)
deriving DecidableEq, Repr, Inhabited

/-- The text of an event. -/
def Event.text : Event → String
  | .started tool => s!"start {tool}"
  | .finished tool => s!"end {tool}"

/-- **Events and when they happen.** -/
abbrev Timeline := List (Nat × Event)

namespace Timeline

/-- A timeline that begins later. -/
def later (delay : Nat) (t : Timeline) : Timeline :=
  t.map fun e => (delay + e.1, e.2)

/-- An event put in front of the first one that is not before it. -/
def insert (e : Nat × Event) : Timeline → Timeline
  | [] => [e]
  | d :: t => if e.1 ≤ d.1 then e :: d :: t else d :: insert e t

/-- **Events in the order of their times**; those of one time keep their
order. -/
def sorted (t : Timeline) : Timeline :=
  t.foldr insert []

/-- What has happened up to a time. -/
def upTo (time : Nat) (t : Timeline) : Timeline :=
  t.filter fun e => e.1 ≤ time

/-- The events of a timeline. -/
def events (t : Timeline) : List Event := t.map Prod.snd

end Timeline

/-- **What came of a call.** -/
structure Record where
  /-- The name of the tool. -/
  toolName : String
  /-- The id of the call that the result carries. -/
  callId : String
  /-- What the provider is sent. -/
  payload : Item
  /-- What the tool answered, or what the model is told in its place. -/
  result : Result
deriving Repr, BEq, Inhabited

/-- What a call without a name is recorded as. -/
def unknownName : String := "unknown_tool"

/-- The name under which a call is recorded. -/
def recordedName (call : ToolCall) : String :=
  if call.name.isEmpty then unknownName else call.name

/-- **The id that the result of a call carries.** A responses provider may
have put it into its own block. -/
def resultId (mode : Mode) (call : ToolCall) : String :=
  match mode with
  | .chatCompletions => call.id
  | .responses => call.inputId?.getD call.id

/-- The output of a call in a provider's form. -/
def outputItem (mode : Mode) (name callId output : String) : Item :=
  match mode with
  | .chatCompletions => .toolResult name callId output
  | .responses => .callOutput callId output

/-- **A call brought to its handler**: the tool's name and what its handler
does. The handler is told how often its tool was invoked before. -/
def dispatch (registry : Registry) (context : Context) (past : List String) (call : ToolCall) :
    Except Failure (String × Conduct) := do
  let (name, arguments) ← call.resolve
  match registry.find? name with
  | none => .error ⟨.executionFailed, s!"tool {name} is not registered"⟩
  | some tool => .ok (name, tool.handler ⟨past.count name, arguments, context⟩)

/-- **What one call comes to.** -/
structure Attempt where
  /-- The result, or why there is none. -/
  outcome : Except Failure Result
  /-- The tools that were invoked: one or none. -/
  invoked : List String := []
  /-- How long it takes. -/
  duration : Nat := 0
  /-- What can be seen of it. -/
  timeline : Timeline := []

/-- What can be seen of a handler. -/
def Conduct.timeline (name : String) (c : Conduct) : Timeline :=
  (0, .started name) ::
    match c.ending with
    | .finished _ => [(c.sleep, .finished name)]
    | _ => []

/-- **Attempting a call.** -/
def attempt (registry : Registry) (context : Context) (past : List String) (call : ToolCall) :
    Attempt :=
  match dispatch registry context past call with
  | .error failure => { outcome := .error failure }
  | .ok (name, conduct) =>
    { outcome := conduct.ending.outcome name
      invoked := [name]
      duration := conduct.sleep
      timeline := conduct.timeline name }

/-- **The record of an attempted call.** -/
def record (mode : Mode) (call : ToolCall) (outcome : Except Failure Result) : Record :=
  let name := recordedName call
  let callId := resultId mode call
  let result :=
    match outcome with
    | .ok result => result
    | .error failure => failure.result name
  { toolName := name, callId, result
    payload := outputItem mode name callId (resultText result.content) }

/-- **What a batch of calls comes to.** -/
structure Batch where
  /-- One record for each call, in order. -/
  records : List Record := []
  /-- The tools that were invoked, in order. -/
  invoked : List String := []
  /-- How long it takes. -/
  duration : Nat := 0
  /-- What can be seen of it. -/
  timeline : Timeline := []

/-- **The attempts at calls**, each told of the invocations before it. -/
def attempts (registry : Registry) (context : Context) :
    List String → List ToolCall → List (ToolCall × Attempt)
  | _, [] => []
  | past, call :: calls =>
    let a := attempt registry context past call
    (call, a) :: attempts registry context (past ++ a.invoked) calls

/-- How long attempts take one after the other. -/
def Attempt.inTurn : List Attempt → Nat
  | [] => 0
  | a :: as => a.duration + inTurn as

/-- Attempts one after the other. -/
def Timeline.inTurn : List Attempt → Timeline
  | [] => []
  | a :: as => a.timeline ++ Timeline.later a.duration (inTurn as)

/-- Whether calls are executed at once: if that is wanted, and if there are
several. -/
def atOnce (parallel : Bool) (calls : List ToolCall) : Bool :=
  parallel && 1 < calls.length

/-- **Executing calls.** -/
def execute (mode : Mode) (parallel : Bool) (registry : Registry) (context : Context)
    (past : List String) (calls : List ToolCall) : Batch :=
  let all := attempts registry context past calls
  let as := all.map Prod.snd
  { records := all.map fun a => record mode a.1 a.2.outcome
    invoked := as.flatMap Attempt.invoked
    duration :=
      if atOnce parallel calls then (as.map Attempt.duration).foldl max 0
      else Attempt.inTurn as
    timeline :=
      if atOnce parallel calls then Timeline.sorted (as.flatMap Attempt.timeline)
      else Timeline.inTurn as }

end Colloquy.Tool
