import Colloquy.Proofs.Tool.Records
import Mathlib.Algebra.GroupWithZero.Nat

/-!
# Nothing that goes wrong with a call gets out

Every call of a batch is accounted for by a record of its own, whatever becomes
of it. It reaches the handler of its tool if it has a name, its arguments
decode and there is a tool of that name (`Tool.Reaches`); then the handler is
invoked once, and the record tells what it answers, word for word. A call that
reaches no handler, and a handler that fails or breaks down, are told of in the
place of an answer (`Tool.Told`). Either way the record goes by the name and
the id of its call (`Tool.Accounts`), and the calls around it notice nothing but
that a tool was invoked (`Tool.AccountFor`).

The conditions are stated here of the call alone, and not by the functions that
test them, so that what the statements say can be read without the latter.
-/

namespace Colloquy

/-- **The arguments of a call decode.** -/
inductive ToolCall.Decodes (call : ToolCall) : Json.Fields → Prop
  /-- They are an object already. -/
  | object {arguments : Json.Fields} (given : call.arguments = .object arguments) :
      Decodes call arguments
  /-- They are blank, and the provider's block stands in for them if there is
  one. -/
  | block {s : String} (given : call.arguments = .text s) (blank : Text.isBlankText s = true) :
      Decodes call (call.input.getD [])
  /-- They are a text that stands for an object. -/
  | text {s : String} {arguments : Json.Fields} (given : call.arguments = .text s)
      (filled : Text.isBlankText s = false) (read : Arguments.read s = .ok arguments) :
      Decodes call arguments

namespace Tool

open Provider (Mode)

variable (mode : Mode) (registry : Registry) (context : Context) (past : List String)
variable (call : ToolCall)

/-- **The id that the result of a call goes by.** -/
inductive GoesBy : String → Prop
  /-- The one in the block of a responses provider. -/
  | block {fields : Json.Fields} {id : String} (responses : mode = .responses)
      (given : call.input = some fields) (found : fields.find? "call_id" = some (.str id))
      (filled : id ≠ "") : GoesBy id
  /-- The one of the call, if there is no such block or nothing in it. -/
  | own (bare : mode = .responses → ∀ fields id, call.input = some fields →
      fields.find? "call_id" = some (.str id) → id = "") : GoesBy call.id

/-- **A call reaches the handler of its tool**, which is given the decoded
arguments and told how often the tool was invoked before. -/
inductive Reaches : Conduct → Prop
  /-- There is a name, the arguments decode, and there is a tool of the name. -/
  | intro {arguments : Json.Fields} {tool : Tool} (named : call.name ≠ "")
      (decodes : call.Decodes arguments) (found : registry.find? call.name = some tool) :
      Reaches (tool.handler ⟨past.count call.name, arguments, context⟩)

/-- **Why a call reaches no handler.** -/
inductive Refused : Failure → Prop
  /-- It has no name. -/
  | nameless (unnamed : call.name = "") :
      Refused ⟨.executionFailed, "Tool call missing name"⟩
  /-- Its arguments do not decode. -/
  | unreadable {s complaint : String} (named : call.name ≠ "")
      (given : call.arguments = .text s) (filled : Text.isBlankText s = false)
      (unread : Arguments.read s = .error complaint) :
      Refused ⟨.invalidArguments, complaint⟩
  /-- There is no such tool. -/
  | unregistered {arguments : Json.Fields} (named : call.name ≠ "")
      (decodes : call.Decodes arguments) (missing : registry.find? call.name = none) :
      Refused ⟨.executionFailed, s!"tool {call.name} is not registered"⟩

/-- **A result reports a failure**, and asks for nothing besides. -/
structure Result.Reports (result : Result) (tool : String) (failure : Failure) : Prop where
  /-- What the model is told. -/
  content : result.content = .ofFields
    [("ok", .bool false), ("tool", .str tool), ("error_code", .str failure.kind.code),
      ("error", .str failure.message)]
  /-- There is nothing else. -/
  directives : result.directives = []

/-- **What is told of a call** under a name: which tools are invoked for it, how
long they sleep, and the result. -/
inductive Told (name : String) : List String → Nat → Result → Prop
  /-- The call reaches no handler. -/
  | refused {failure : Failure} {result : Result}
      (unreached : ∀ conduct, ¬ Reaches registry context past call conduct)
      (refused : Refused registry call failure) (reports : result.Reports name failure) :
      Told name [] 0 result
  /-- The handler answers. -/
  | finished {conduct : Conduct} {result : Result}
      (reaches : Reaches registry context past call conduct)
      (ending : conduct.ending = .finished result) :
      Told name [call.name] conduct.sleep result
  /-- The handler fails. -/
  | failed {conduct : Conduct} {failure : Failure} {result : Result}
      (reaches : Reaches registry context past call conduct)
      (ending : conduct.ending = .failed failure) (reports : result.Reports name failure) :
      Told name [call.name] conduct.sleep result
  /-- The handler breaks down. -/
  | brokeDown {conduct : Conduct} {message : Option String} {result : Result}
      (reaches : Reaches registry context past call conduct)
      (ending : conduct.ending = .brokeDown message)
      (reports : result.Reports name ⟨.executionFailed,
        s!"tool {call.name} panicked: " ++ message.getD "unknown panic"⟩) :
      Told name [call.name] conduct.sleep result

/-- **A record accounts for a call.** -/
structure Accounts (invoked : List String) (sleep : Nat) (record : Record) : Prop where
  /-- It has the name of the call. -/
  toolName : record.toolName = if call.name = "" then "unknown_tool" else call.name
  /-- It has the id that the result of the call goes by. -/
  callId : GoesBy mode call record.callId
  /-- What the provider is sent says the same in the provider's form. -/
  payload : record.payload = match mode with
    | .chatCompletions =>
      .toolResult record.toolName record.callId (resultText record.result.content)
    | .responses => .callOutput record.callId (resultText record.result.content)
  /-- It tells what became of the call. -/
  told : Told registry context past call record.toolName invoked sleep record.result

/-- **Records account for calls**, one for each and in their order, each after
the tools that were invoked for the calls before it. -/
inductive AccountFor :
    List String → List ToolCall → List String → List Nat → List Record → Prop
  /-- No calls. -/
  | nil {past : List String} : AccountFor past [] [] [] []
  /-- A call before others. -/
  | cons {past : List String} {call : ToolCall} {calls : List ToolCall}
      {invoked further : List String} {sleep : Nat} {sleeps : List Nat} {record : Record}
      {records : List Record}
      (first : Accounts mode registry context past call invoked sleep record)
      (others : AccountFor (past ++ invoked) calls further sleeps records) :
      AccountFor past (call :: calls) (invoked ++ further) (sleep :: sleeps) (record :: records)

variable {mode : Mode} {registry : Registry} {context : Context} {past : List String}
variable {call : ToolCall}

/-! ## Each call is accounted for -/

/-- A call without a name does not resolve. -/
theorem resolve_of_no_name (h : call.name = "") :
    call.resolve = .error ⟨.executionFailed, "Tool call missing name"⟩ := by
  unfold ToolCall.resolve
  rw [if_pos (String.isEmpty_iff.mpr h)]

/-- A call with a name resolves as its arguments decode. -/
theorem resolve_of_decodes {arguments : Json.Fields} (hname : call.name ≠ "")
    (h : call.Decodes arguments) : call.resolve = .ok (call.name, arguments) := by
  have hnamed : ¬ call.name.isEmpty = true := by rwa [String.isEmpty_iff]
  unfold ToolCall.resolve
  rw [if_neg hnamed]
  cases h with
  | object given => rw [given]
  | block given blank => simp only [given, blank, if_true]
  | text given filled read => simp only [given, filled, read, Bool.false_eq_true, if_false]

/-- **A call that resolves has a name and decodes.** -/
theorem decodes_of_resolve {name : String} {arguments : Json.Fields}
    (h : call.resolve = .ok (name, arguments)) :
    call.name ≠ "" ∧ name = call.name ∧ call.Decodes arguments := by
  have hname : call.name ≠ "" := fun hname => by
    rw [resolve_of_no_name hname] at h
    cases h
  unfold ToolCall.resolve at h
  rw [if_neg (by rwa [String.isEmpty_iff])] at h
  cases hgiven : call.arguments with
  | object fields =>
    rw [hgiven] at h
    cases h
    exact ⟨hname, rfl, .object hgiven⟩
  | text s =>
    simp only [hgiven] at h
    cases hblank : Text.isBlankText s with
    | true =>
      rw [if_pos hblank] at h
      cases h
      exact ⟨hname, rfl, .block hgiven hblank⟩
    | false =>
      rw [if_neg (by simp [hblank])] at h
      cases hread : Arguments.read s with
      | error complaint => simp [hread] at h
      | ok fields =>
        simp only [hread] at h
        cases h
        exact ⟨hname, rfl, .text hgiven hblank hread⟩

/-- **A call that does not resolve is refused for that.** -/
theorem refused_of_resolve {failure : Failure} (h : call.resolve = .error failure) :
    Refused registry call failure := by
  by_cases hname : call.name = ""
  · rw [resolve_of_no_name hname] at h
    cases h
    exact .nameless hname
  · unfold ToolCall.resolve at h
    rw [if_neg (by rwa [String.isEmpty_iff])] at h
    cases hgiven : call.arguments with
    | object fields => simp [hgiven] at h
    | text s =>
      simp only [hgiven] at h
      cases hblank : Text.isBlankText s with
      | true => simp [hblank] at h
      | false =>
        rw [if_neg (by simp [hblank])] at h
        cases hread : Arguments.read s with
        | ok fields => simp [hread] at h
        | error complaint =>
          simp only [hread] at h
          cases h
          exact .unreadable hname hgiven hblank hread

/-- **A call goes by its own id or by that of the block.** -/
theorem goesBy_resultId (mode : Mode) (call : ToolCall) :
    GoesBy mode call (resultId mode call) := by
  cases mode with
  | chatCompletions => exact .own fun h => by cases h
  | responses =>
    show GoesBy _ call (call.inputId?.getD call.id)
    cases hid : call.inputId? with
    | some id =>
      obtain ⟨hblock, hfilled⟩ := Option.filter_eq_some_iff.mp hid
      obtain ⟨v, hv, hstr⟩ := Option.bind_eq_some_iff.mp hblock
      obtain ⟨fields, hfields, hfound⟩ := Option.bind_eq_some_iff.mp hv
      have hvalue : v = .str id := by
        unfold Json.string? at hstr
        split at hstr
        · exact congrArg Json.str (Option.some.inj hstr)
        · cases hstr
      exact .block rfl hfields (hvalue ▸ hfound) (by simpa using hfilled)
    | none =>
      refine .own fun _ fields id hfields hfound => ?_
      have hblock : (call.input.bind fun f => f.find? "call_id").bind Json.string? = some id := by
        rw [hfields]
        simp [hfound, Json.string?]
      simpa using Option.filter_eq_none_iff.mp hid id hblock

/-- What the model is told about a failure reports it. -/
theorem reports_result (tool : String) (failure : Failure) :
    (failure.result tool).Reports tool failure := ⟨rfl, rfl⟩

/-- **What a call comes to is told of it.** -/
theorem told_attempt (registry : Registry) (context : Context) (past : List String)
    (call : ToolCall) :
    Told registry context past call (recordedName call)
      (attempt registry context past call).invoked (attempt registry context past call).duration
      (match (attempt registry context past call).outcome with
        | .ok result => result
        | .error failure => failure.result (recordedName call)) := by
  have h := attempt_of registry context past call
  generalize attempt registry context past call = a at h ⊢
  cases h with
  | @unresolved failure resolved =>
    refine .refused (fun conduct hreaches => ?_) (refused_of_resolve resolved) (reports_result _ _)
    obtain ⟨hname, hdecodes, -⟩ := hreaches
    rw [resolve_of_decodes hname hdecodes] at resolved
    cases resolved
  | @unknown name arguments resolved found =>
    obtain ⟨hname, rfl, hdecodes⟩ := decodes_of_resolve resolved
    refine .refused (fun conduct hreaches => ?_) (.unregistered hname hdecodes found)
      (reports_result _ _)
    obtain ⟨-, -, hfound⟩ := hreaches
    rw [hfound] at found
    cases found
  | @handled name arguments tool resolved found =>
    obtain ⟨hname, rfl, hdecodes⟩ := decodes_of_resolve resolved
    have hreaches : Reaches registry context past call _ := .intro hname hdecodes found
    unfold Attempt.ofConduct
    cases hending : (tool.handler ⟨past.count call.name, arguments, context⟩).ending with
    | finished result => exact .finished hreaches hending
    | failed failure => exact .failed hreaches hending (reports_result _ _)
    | brokeDown message => exact .brokeDown hreaches hending (reports_result _ _)

/-- **The record of an attempt accounts for the call.** -/
theorem accounts_record (mode : Mode) (registry : Registry) (context : Context)
    (past : List String) (call : ToolCall) :
    Accounts mode registry context past call (attempt registry context past call).invoked
      (attempt registry context past call).duration
      (record mode call (attempt registry context past call).outcome) where
  toolName := by
    show recordedName call = _
    unfold recordedName
    simp only [String.isEmpty_iff]
    rfl
  callId := goesBy_resultId mode call
  payload := by cases mode <;> rfl
  told := told_attempt registry context past call

/-! ## Batches -/

/-- **The records of attempts account for the calls.** -/
theorem accountFor_attempts (mode : Mode) (registry : Registry) (context : Context)
    (past : List String) (calls : List ToolCall) :
    AccountFor mode registry context past calls
      ((attempts registry context past calls).flatMap fun a => a.2.invoked)
      ((attempts registry context past calls).map fun a => a.2.duration)
      ((attempts registry context past calls).map fun a => record mode a.1 a.2.outcome) := by
  induction calls generalizing past with
  | nil => exact .nil
  | cons call calls ih =>
    unfold attempts
    exact .cons (accounts_record mode registry context past call) (ih _)

/-- Attempts one after the other take the sum of their times. -/
theorem inTurn_eq_sum (as : List Attempt) : Attempt.inTurn as = (as.map Attempt.duration).sum := by
  induction as with
  | nil => rfl
  | cons a as ih => rw [Attempt.inTurn, ih, List.map_cons, List.sum_cons]

/-- **The records of a batch account for its calls.** How long the batch takes
is the sum of the times that the handlers sleep, or the longest of them where
several calls are executed at once. -/
theorem accountFor_execute (mode : Mode) (parallel : Bool) (registry : Registry)
    (context : Context) (past : List String) (calls : List ToolCall) :
    let batch := execute mode parallel registry context past calls
    ∃ sleeps, AccountFor mode registry context past calls batch.invoked sleeps batch.records
      ∧ batch.duration
        = if parallel = true ∧ 1 < calls.length then sleeps.foldl max 0 else sleeps.sum := by
  intro batch
  have h := accountFor_attempts mode registry context past calls
  refine ⟨(attempts registry context past calls).map fun a => a.2.duration, ?_, ?_⟩
  · show AccountFor _ _ _ _ _ (List.flatMap Attempt.invoked (List.map Prod.snd _)) _ _
    rw [List.flatMap_map]
    exact h
  · show (if atOnce parallel calls then _ else _) = _
    rw [inTurn_eq_sum, List.map_map]
    simp only [atOnce, Bool.and_eq_true, decide_eq_true_eq]
    rfl

/-! ## What can be seen of a batch -/

/-- The tool that an event shows to start. -/
def Event.started? : Event → Option String
  | .started tool => some tool
  | .finished _ => none

/-- **The tools that start**, in the order in which they do. -/
def Timeline.started (t : Timeline) : List String :=
  t.filterMap fun e => e.2.started?

theorem Timeline.started_append (s t : Timeline) : started (s ++ t) = started s ++ started t :=
  List.filterMap_append

theorem Timeline.started_later (delay : Nat) (t : Timeline) :
    started (later delay t) = started t := by
  unfold started later
  rw [List.filterMap_map]
  rfl

/-- An attempt shows the tools start that it invokes, at its beginning. -/
theorem started_attempt (registry : Registry) (context : Context) (past : List String)
    (call : ToolCall) :
    Timeline.started (attempt registry context past call).timeline
        = (attempt registry context past call).invoked
      ∧ ∀ e ∈ (attempt registry context past call).timeline, e.2.started? ≠ none → e.1 = 0 := by
  have h := attempt_of registry context past call
  generalize attempt registry context past call = a at h ⊢
  cases h with
  | unresolved resolved => exact ⟨rfl, by simp⟩
  | unknown resolved found => exact ⟨rfl, by simp⟩
  | handled resolved found =>
    unfold Attempt.ofConduct Conduct.timeline
    split
    · refine ⟨rfl, fun e he hstarted => ?_⟩
      rcases List.mem_cons.mp he with rfl | he
      · rfl
      · obtain rfl := List.mem_singleton.mp he
        exact absurd rfl hstarted
    · refine ⟨rfl, fun e he _ => ?_⟩
      obtain rfl := List.mem_singleton.mp he
      rfl

/-- What starts in a timeline with one event more in front. -/
theorem Timeline.started_cons (e : Nat × Event) (t : Timeline) :
    started (e :: t) = e.2.started?.toList ++ started t := by
  unfold started
  rw [List.filterMap_cons]
  cases e.2.started? <;> rfl

/-- An event that starts nothing does not change what starts. -/
theorem Timeline.started_insert_of_none {e : Nat × Event} (he : e.2.started? = none)
    (t : Timeline) : started (insert e t) = started t := by
  induction t with
  | nil =>
    show started [e] = _
    rw [started_cons, he]
    rfl
  | cons d t ih =>
    unfold insert
    split
    · rw [started_cons, he]
      rfl
    · rw [started_cons, started_cons, ih]

/-- **Sorting keeps the order in which tools start**, if all of them start at
the beginning. -/
theorem Timeline.started_sorted {t : Timeline}
    (h : ∀ e ∈ t, e.2.started? ≠ none → e.1 = 0) : started (sorted t) = started t := by
  induction t with
  | nil => rfl
  | cons e t ih =>
    have hrest := ih fun e' he' => h e' (List.mem_cons_of_mem e he')
    show started (insert e (sorted t)) = _
    cases hstarted : e.2.started? with
    | none =>
      rw [started_insert_of_none hstarted, hrest, started_cons, hstarted]
      rfl
    | some tool =>
      -- what starts at the beginning is put in front
      have hzero : e.1 = 0 := h e List.mem_cons_self (by simp [hstarted])
      have hfront : insert e (sorted t) = e :: sorted t := by
        cases sorted t with
        | nil => rfl
        | cons d s =>
          unfold insert
          rw [if_pos (by omega)]
      rw [hfront, started_cons, started_cons, hrest]

/-- Attempts one after the other show their tools start. -/
theorem Timeline.started_inTurn (as : List Attempt) :
    started (inTurn as) = as.flatMap fun a => started a.timeline := by
  induction as with
  | nil => rfl
  | cons a as ih =>
    unfold inTurn
    rw [started_append, started_later, ih, List.flatMap_cons]

/-- So do attempts at once. -/
theorem Timeline.started_flatMap (as : List Attempt) :
    started (as.flatMap Attempt.timeline) = as.flatMap fun a => started a.timeline :=
  List.filterMap_flatMap

/-- **The tools of a batch start once for each time they are invoked**, in the
order of the calls, whether or not the calls are executed at once. -/
theorem started_execute (mode : Mode) (parallel : Bool) (registry : Registry)
    (context : Context) (past : List String) (calls : List ToolCall) :
    (execute mode parallel registry context past calls).timeline.started
      = (execute mode parallel registry context past calls).invoked := by
  have hattempt (a : Attempt) (ha : a ∈ (attempts registry context past calls).map Prod.snd) :
      Timeline.started a.timeline = a.invoked
        ∧ ∀ e ∈ a.timeline, e.2.started? ≠ none → e.1 = 0 := by
    obtain ⟨⟨call, a⟩, hmem, rfl⟩ := List.mem_map.mp ha
    obtain ⟨past', rfl⟩ := exists_past_of_mem_attempts hmem
    exact started_attempt registry context past' call
  have hinvoked := List.flatMap_congr fun a ha => (hattempt a ha).1
  unfold execute
  simp only []
  split
  · rw [Timeline.started_sorted, Timeline.started_flatMap, hinvoked]
    intro e he
    obtain ⟨a, ha, hmem⟩ := List.mem_flatMap.mp he
    exact (hattempt a ha).2 e hmem
  · rw [Timeline.started_inTurn, hinvoked]

/-- No more tools are invoked than there are calls. -/
theorem AccountFor.length_invoked_le {calls : List ToolCall} {invoked : List String}
    {sleeps : List Nat} {records : List Record}
    (h : AccountFor mode registry context past calls invoked sleeps records) :
    invoked.length ≤ calls.length := by
  induction h with
  | nil => exact Nat.le_refl 0
  | cons first others ih =>
    have hone := first.told
    rw [List.length_append, List.length_cons]
    cases hone <;> simp only [List.length_nil, List.length_singleton] <;> omega

end Tool

end Colloquy
