import Colloquy.Agent.Step
import Mathlib.Data.List.Forall2

/-!
# The records of a batch

A batch has one record for each call, in the order of the calls, whatever the
handlers do and whether or not they work at once. The record of a call names
its tool and carries its id (`Record.Answers`), and what the provider is sent
is made from the record alone (`payload_of_mem_execute`): it says again what
the record's name, id and result say.

What a call comes to depends on whether it can be resolved and whether there is
a tool of its name (`Attempt.Of`). Only in the last of the three cases a handler
is there to ask for anything, so that whatever a record asks for the tool it is
named after has asked for (`exists_handler_of_mem_execute`).
-/

namespace Colloquy.Tool

open Provider (Mode)

variable {mode : Mode} {parallel : Bool} {registry : Registry} {context : Context}
variable {past : List String} {calls : List ToolCall}

/-- **The record answers the call**: it has the name and the id that results
of the call go by. -/
structure Record.Answers (mode : Mode) (call : ToolCall) (record : Record) : Prop where
  /-- The name of the tool. -/
  toolName : record.toolName = recordedName call
  /-- The id that the result carries. -/
  callId : record.callId = resultId mode call

/-- Every call is attempted once, in order. -/
theorem map_fst_attempts (registry : Registry) (context : Context) (past : List String)
    (calls : List ToolCall) :
    (attempts registry context past calls).map Prod.fst = calls := by
  induction calls generalizing past with
  | nil => rfl
  | cons call calls ih => exact congrArg (call :: ·) (ih _)

/-- Every call is attempted after some others. -/
theorem exists_past_of_mem_attempts {call : ToolCall} {a : Attempt}
    (h : (call, a) ∈ attempts registry context past calls) :
    ∃ past', a = attempt registry context past' call := by
  induction calls generalizing past with
  | nil => cases h
  | cons call' calls ih =>
    unfold attempts at h
    rcases List.mem_cons.mp h with heq | hmem
    · cases heq
      exact ⟨past, rfl⟩
    · exact ih hmem

/-- **One record answers each call, in the order of the calls.** -/
theorem forall₂_answers_execute (mode : Mode) (parallel : Bool) (registry : Registry)
    (context : Context) (past : List String) (calls : List ToolCall) :
    List.Forall₂ (Record.Answers mode) calls
      (execute mode parallel registry context past calls).records := by
  conv => arg 2; rw [← map_fst_attempts registry context past calls]
  show List.Forall₂ _ _ ((attempts registry context past calls).map _)
  rw [List.forall₂_map_left_iff, List.forall₂_map_right_iff, List.forall₂_same]
  exact fun _ _ => ⟨rfl, rfl⟩

/-- Every record answers a call. -/
theorem exists_answers_of_mem_execute {record : Record}
    (h : record ∈ (execute mode parallel registry context past calls).records) :
    ∃ call ∈ calls, record.Answers mode call := by
  obtain ⟨a, ha, rfl⟩ := List.mem_map.mp h
  refine ⟨a.1, ?_, rfl, rfl⟩
  rw [← map_fst_attempts registry context past calls]
  exact List.mem_map_of_mem ha

/-- **What the provider is sent is made from the record.** -/
theorem payload_of_mem_execute {record : Record}
    (h : record ∈ (execute mode parallel registry context past calls).records) :
    record.payload
      = outputItem mode record.toolName record.callId (resultText record.result.content) := by
  obtain ⟨a, -, rfl⟩ := List.mem_map.mp h
  rfl

/-! ## What a call comes to -/

/-- What a call comes to at a handler. -/
def Attempt.ofConduct (name : String) (conduct : Conduct) : Attempt where
  outcome := conduct.ending.outcome name
  invoked := [name]
  duration := conduct.sleep
  timeline := conduct.timeline name

/-- **What can become of a call.** -/
inductive Attempt.Of (registry : Registry) (context : Context) (past : List String)
    (call : ToolCall) : Attempt → Prop
  /-- It has no name, or its arguments cannot be read. -/
  | unresolved {failure : Failure} (resolved : call.resolve = .error failure) :
      Of registry context past call { outcome := .error failure }
  /-- There is no such tool. -/
  | unknown {name : String} {arguments : Json.Fields}
      (resolved : call.resolve = .ok (name, arguments)) (found : registry.find? name = none) :
      Of registry context past call
        { outcome := .error ⟨.executionFailed, s!"tool {name} is not registered"⟩ }
  /-- It comes to the handler of its tool. -/
  | handled {name : String} {arguments : Json.Fields} {tool : Tool}
      (resolved : call.resolve = .ok (name, arguments)) (found : registry.find? name = some tool) :
      Of registry context past call
        (.ofConduct name (tool.handler ⟨past.count name, arguments, context⟩))

/-- **A call comes to one of these.** -/
theorem attempt_of (registry : Registry) (context : Context) (past : List String)
    (call : ToolCall) :
    Attempt.Of registry context past call (attempt registry context past call) := by
  unfold attempt dispatch
  cases hresolved : call.resolve with
  | error failure => exact .unresolved hresolved
  | ok resolved =>
    obtain ⟨name, arguments⟩ := resolved
    cases hfound : registry.find? name with
    | none =>
      simp only [bind, Except.bind, hfound]
      exact .unknown hresolved hfound
    | some tool =>
      simp only [bind, Except.bind, hfound]
      exact .handled hresolved hfound

/-- It comes to no other. -/
theorem Attempt.Of.attempt_eq {call : ToolCall} {a : Attempt}
    (h : Attempt.Of registry context past call a) : attempt registry context past call = a := by
  unfold attempt dispatch
  cases h with
  | unresolved resolved =>
    rw [resolved]
    rfl
  | @unknown name arguments resolved found =>
    rw [resolved]
    simp only [bind, Except.bind, found]
  | @handled name arguments tool resolved found =>
    rw [resolved]
    simp only [bind, Except.bind, found]
    rfl

/-- A call that can be resolved is recorded under the name it resolves to. -/
theorem recordedName_eq_of_resolve {call : ToolCall} {name : String} {arguments : Json.Fields}
    (h : call.resolve = .ok (name, arguments)) : recordedName call = name := by
  unfold ToolCall.resolve at h
  unfold recordedName
  split at h
  · cases h
  · rename_i hname
    rw [if_neg hname]
    -- wherever the arguments are taken from, the name is the one of the call
    split at h
    · cases h
      rfl
    · split at h
      · cases h
        rfl
      · split at h <;> cases h
        rfl

/-- The tool that is found under a name has it. -/
theorem Registry.name_eq_of_find? {name : String} {tool : Tool}
    (h : registry.find? name = some tool) : tool.name = name := by
  simpa using List.find?_some h

/-! ## Handlers that are changed -/

/-- Tools that are changed, one by one. -/
def Registry.map (f : Tool → Tool) (registry : Registry) : Registry where
  tools := registry.tools.map f

/-- **Changing tools changes what calls come to**, and nothing else about them:
providers are told the same of the tools, and the same of them are invoked. -/
structure Changes (f : Tool → Tool) (g : String → Attempt → Attempt) : Prop where
  /-- A provider is told the same of a tool. -/
  definition : ∀ tool, (f tool).definition = tool.definition
  /-- What comes of its handler is changed. -/
  handled : ∀ tool invocation, Attempt.ofConduct tool.name ((f tool).handler invocation)
    = g tool.name (.ofConduct tool.name (tool.handler invocation))
  /-- A call that reaches no handler is not. -/
  refused : ∀ name failure, g name { outcome := .error failure } = { outcome := .error failure }
  /-- The same tool is invoked. -/
  invoked : ∀ name a, (g name a).invoked = a.invoked

variable {f : Tool → Tool} {g : String → Attempt → Attempt}

theorem Changes.definitions_map (h : Changes f g) (registry : Registry) :
    (registry.map f).definitions = registry.definitions := by
  show (registry.tools.map f).map Tool.definition = registry.tools.map Tool.definition
  rw [List.map_map]
  exact List.map_congr_left fun tool _ => h.definition tool

theorem Changes.find?_map (h : Changes f g) (registry : Registry) (name : String) :
    (registry.map f).find? name = (registry.find? name).map f := by
  have hname : (fun t : Tool => t.name == name) ∘ f = fun t => t.name == name := by
    funext tool
    exact congrArg (fun d : Definition => d.name == name) (h.definition tool)
  show (registry.tools.map f).find? _ = _
  rw [List.find?_map, hname]
  rfl

/-- **A call comes to the same where tools are changed**, changed. -/
theorem Changes.attempt_map (h : Changes f g) (registry : Registry) (context : Context)
    (past : List String) (call : ToolCall) :
    attempt (registry.map f) context past call
      = g (recordedName call) (attempt registry context past call) := by
  refine Attempt.Of.attempt_eq ?_
  have hof := attempt_of registry context past call
  generalize attempt registry context past call = a at hof ⊢
  cases hof with
  | unresolved resolved =>
    rw [h.refused]
    exact .unresolved resolved
  | unknown resolved found =>
    rw [h.refused]
    refine .unknown resolved ?_
    rw [h.find?_map, found]
    rfl
  | @handled name arguments tool resolved found =>
    -- a tool is found by its own name, which is the one that was called
    obtain rfl := Registry.name_eq_of_find? found
    rw [recordedName_eq_of_resolve resolved, ← h.handled]
    refine .handled resolved ?_
    rw [h.find?_map, found]
    rfl

/-- **Each call of a batch comes to the same**, changed. -/
theorem Changes.attempts_map (h : Changes f g) (registry : Registry) (context : Context)
    (past : List String) (calls : List ToolCall) :
    attempts (registry.map f) context past calls
      = (attempts registry context past calls).map fun a => (a.1, g (recordedName a.1) a.2) := by
  induction calls generalizing past with
  | nil => rfl
  | cons call calls ih =>
    unfold attempts
    simp only []
    rw [h.attempt_map, h.invoked, ih, List.map_cons]

/-! ## Handlers that ask for something -/

/-- **What a record asks for, its tool has asked for**: there is one of the
record's name, and the result of its handler is the record's. -/
theorem exists_handler_of_mem_execute {record : Record} {directive : Directive}
    (h : record ∈ (execute mode parallel registry context past calls).records)
    (hdirective : directive ∈ record.result.directives) :
    ∃ tool invocation, registry.find? record.toolName = some tool
      ∧ (tool.handler invocation).ending = .finished record.result := by
  obtain ⟨⟨call, a⟩, hmem, rfl⟩ := List.mem_map.mp h
  obtain ⟨past', ha⟩ := exists_past_of_mem_attempts hmem
  have hof := ha ▸ attempt_of registry context past' call
  -- what the model is told about a failure asks for nothing
  cases hof with
  | unresolved resolved => cases hdirective
  | unknown resolved found => cases hdirective
  | @handled name arguments tool resolved found =>
    refine ⟨tool, ⟨past'.count name, arguments, context⟩, ?_, ?_⟩
    · show registry.find? (recordedName call) = _
      rw [recordedName_eq_of_resolve resolved, found]
    · unfold Attempt.ofConduct at hdirective ⊢
      cases hending : (tool.handler ⟨past'.count name, arguments, context⟩).ending with
      | finished result => rfl
      | failed failure =>
        rw [hending] at hdirective
        cases hdirective
      | brokeDown message =>
        rw [hending] at hdirective
        cases hdirective

/-- Without calls no tool is invoked. -/
@[simp] theorem invoked_execute_nil :
    (execute mode parallel registry context past []).invoked = [] := rfl

/-- The part of a message that holds a result: strings are texts, everything
else stays JSON. -/
def resultPart : Json → Part
  | .str s => .text s
  | v => .json v

/-- **The message that tells of a result** has one part, and the name and id
of the record. -/
theorem Record.message_eq (record : Record) :
    record.message
      = .toolPart record.callId record.toolName (resultPart record.result.content) := by
  obtain ⟨toolName, callId, payload, content, directives⟩ := record
  cases content <;> rfl

/-- **A result reads the same as a part of a message** as it does alone. -/
theorem partsText_resultPart (v : Json) : partsText [resultPart v] = resultText v := by
  cases v <;> rfl

end Colloquy.Tool

namespace Colloquy

/-! ## A small tool

It finds something and has a note to add. -/

/-- A tool that looks something up. -/
def Tool.lookUp : Tool where
  definition := ⟨"look_up", "Looks something up.", .obj []⟩
  handler _ := { ending := .finished ⟨.str "found", [.append (.user "See also elsewhere.")]⟩ }

/-- A call of it. -/
def ToolCall.lookUp : ToolCall where
  id := "call"
  name := "look_up"
  arguments := .object []

/-- A completion that asks for it. -/
def Provider.Completion.lookUp (responseId : Option String) : Provider.Completion where
  toolCalls := [.lookUp]
  responseId := responseId

end Colloquy
