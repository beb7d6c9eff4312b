import Colloquy.Proofs.Tool.Records
import Colloquy.Trust

/-!
# Curbing tools

A tool is **curbed** if whatever it asks for without being trusted with it is
taken out of its results (`Trust.curb`). Its name, how long it takes, what it
answers and how it fails stay the same. So a batch executed with curbed tools
is the batch executed with the tools as they are, with the same directives
taken out of its records (`Trust.execute_curbRegistry`), and a curbed record
adds to a conversation what it added before (`Trust.admitted_curbRecord`).
-/

namespace Colloquy

open Tool (Attempt Batch Conduct Record Registry)

namespace Trust

variable (trust : Trust)

/-- **A directive is rejected** if the tool is not trusted with it. -/
def rejects (tool : String) : Directive → Bool
  | .append m => !trust.tools.contains tool || (m.role == .system && !trust.systemInserts)

/-- A result without the directives that are rejected. -/
def curbResult (tool : String) (result : Tool.Result) : Tool.Result :=
  { result with directives := result.directives.filter fun d => !trust.rejects tool d }

/-- The end of a handler without the directives that are rejected. -/
def curbEnding (tool : String) : Tool.Ending → Tool.Ending
  | .finished result => .finished (trust.curbResult tool result)
  | other => other

/-- What a handler does, without the directives that are rejected. -/
def curbConduct (tool : String) (conduct : Conduct) : Conduct :=
  { conduct with ending := trust.curbEnding tool conduct.ending }

/-- **A curbed tool** does what it did, without the directives that are
rejected. -/
def curb (tool : Tool) : Tool :=
  { tool with handler := fun i => trust.curbConduct tool.name (tool.handler i) }

/-- **Curbed tools.** -/
def curbRegistry (registry : Registry) : Registry where
  tools := registry.tools.map trust.curb

/-- A curbed record. -/
def curbRecord (record : Record) : Record :=
  { record with result := trust.curbResult record.toolName record.result }

/-- **A batch whose records are curbed.** -/
def curbBatch (batch : Batch) : Batch :=
  { batch with records := batch.records.map trust.curbRecord }

/-- An attempt whose result is curbed. -/
def curbAttempt (tool : String) (attempt : Attempt) : Attempt :=
  { attempt with outcome := attempt.outcome.map (trust.curbResult tool) }

/-! ## Directives -/

/-- A directive is rejected unless its message is let in. -/
theorem rejects_append (tool : String) (m : Message) :
    trust.rejects tool (.append m) = !trust.allows tool m := by
  simp only [rejects, allows, bne, Bool.not_and, Bool.not_or, Bool.not_not]

theorem admit?_eq (tool : String) (m : Message) :
    trust.admit? tool (.append m)
      = if trust.rejects tool (.append m) then none else some (mark tool m) := by
  rw [rejects_append]
  show (if trust.allows tool m then some (mark tool m) else none) = _
  cases trust.allows tool m <;> rfl

/-- **A curbed record adds what it added before.** -/
@[simp] theorem admitted_curbRecord (record : Record) :
    trust.admitted (trust.curbRecord record) = trust.admitted record := by
  show (record.result.directives.filter _).filterMap (trust.admit? record.toolName) = _
  rw [List.filterMap_filter]
  refine List.filterMap_congr fun directive _ => ?_
  obtain ⟨m⟩ := directive
  rw [admit?_eq]
  cases trust.rejects record.toolName (.append m) <;> rfl

/-! ## Calls -/

/-- **Calls come to the same where tools are curbed**, curbed. -/
theorem changes_curb : Tool.Changes trust.curb trust.curbAttempt where
  definition _ := rfl
  handled tool invocation := by
    unfold curb
    simp only []
    obtain ⟨sleep, ending⟩ := tool.handler invocation
    cases ending <;> rfl
  refused _ _ := rfl
  invoked _ _ := rfl

@[simp] theorem definitions_curbRegistry (registry : Registry) :
    (trust.curbRegistry registry).definitions = registry.definitions :=
  trust.changes_curb.definitions_map registry

/-! ## Batches -/

/-- A call and what it comes to, curbed. -/
def curbCall (a : ToolCall × Attempt) : ToolCall × Attempt :=
  (a.1, trust.curbAttempt (Tool.recordedName a.1) a.2)

/-- Each call of a batch comes to the same, curbed. -/
theorem attempts_curbRegistry (registry : Registry) (context : Tool.Context) (past : List String)
    (calls : List ToolCall) :
    Tool.attempts (trust.curbRegistry registry) context past calls
      = (Tool.attempts registry context past calls).map trust.curbCall :=
  trust.changes_curb.attempts_map registry context past calls

theorem record_curbAttempt (mode : Provider.Mode) (a : ToolCall × Attempt) :
    Tool.record mode (trust.curbCall a).1 (trust.curbCall a).2.outcome
      = trust.curbRecord (Tool.record mode a.1 a.2.outcome) := by
  obtain ⟨call, outcome, -, -, -⟩ := a
  cases outcome <;> rfl

/-- Curbed attempts take as long one after the other. -/
theorem duration_inTurn_curbCall (all : List (ToolCall × Attempt)) :
    Attempt.inTurn ((all.map trust.curbCall).map Prod.snd) = Attempt.inTurn (all.map Prod.snd) := by
  induction all with
  | nil => rfl
  | cons a all ih => exact congrArg (a.2.duration + ·) ih

/-- They look the same one after the other. -/
theorem timeline_inTurn_curbCall (all : List (ToolCall × Attempt)) :
    Tool.Timeline.inTurn ((all.map trust.curbCall).map Prod.snd)
      = Tool.Timeline.inTurn (all.map Prod.snd) := by
  induction all with
  | nil => rfl
  | cons a all ih => exact congrArg (a.2.timeline ++ Tool.Timeline.later a.2.duration ·) ih

/-- **A batch executed with curbed tools is the batch, curbed**: the same tools
are invoked, at the same times, and only the records tell the two apart. -/
theorem execute_curbRegistry (mode : Provider.Mode) (parallel : Bool) (registry : Registry)
    (context : Tool.Context) (past : List String) (calls : List ToolCall) :
    Tool.execute mode parallel (trust.curbRegistry registry) context past calls
      = trust.curbBatch (Tool.execute mode parallel registry context past calls) := by
  have hrecords (all : List (ToolCall × Attempt)) :
      (all.map trust.curbCall).map (fun a => Tool.record mode a.1 a.2.outcome)
        = (all.map fun a => Tool.record mode a.1 a.2.outcome).map trust.curbRecord := by
    rw [List.map_map, List.map_map]
    exact List.map_congr_left fun a _ => record_curbAttempt trust mode a
  unfold Tool.execute curbBatch
  simp only [attempts_curbRegistry, hrecords, duration_inTurn_curbCall, timeline_inTurn_curbCall]
  -- what else is looked at is the same for every attempt
  simp only [List.map_map, List.flatMap_map]
  rfl

end Trust

end Colloquy
