import Colloquy.Proofs.Agent.Context
import Colloquy.Proofs.Tool.Curbing

/-!
# What tools may do to a run

A tool can ask for messages to be added, and what it is not trusted with has
no influence at all: a run with curbed tools takes the same course, asks the
same, says the same and ends the same (`Agent.run_curbed`). The one trace of
what was rejected is in the records of the batches, which nothing else reads.

What a tool is trusted with is added, and can be told from everything else. A
conversation is made of pieces, each of which is what the model has said, what
it is told about a candidate, or the result of a call with what its tool has
added (`Agent.Piece`); the messages in the latter are those that the handler of
the tool asked for, in order, under the mark of the tool (`Trust.Marked`).
What a request carries it takes from the conversation, so that an added message
is marked there, too.
-/

namespace Colloquy

open Provider (Completion)
open Tool (Batch Record)

/-! ## Marks -/

namespace Trust

/-- **A message is marked as added by a tool**: it bears the two marks, whatever
the tool has written in their place, and is otherwise the message the tool
asked for. -/
structure Marked (tool : String) (asked added : Message) : Prop where
  /-- It is not what people or models said. -/
  synthetic : added.metadata.find? "synthetic" = some (.bool true)
  /-- It comes from the tool. -/
  source : added.metadata.find? "source_tool" = some (.str tool)
  /-- What else is noted is what the tool has noted. -/
  notes : ∀ name, name ≠ "synthetic" → name ≠ "source_tool" →
    added.metadata.find? name = asked.metadata.find? name
  /-- Everything but the notes is the same. -/
  same : { added with metadata := asked.metadata } = asked

theorem marked_mark (tool : String) (m : Message) : Marked tool m (mark tool m) where
  synthetic := by
    unfold mark Message.note
    rw [Json.Fields.find?_insert_of_ne _ _ (by decide), Json.Fields.find?_insert_self]
  source := Json.Fields.find?_insert_self _ _ _
  notes name hsynthetic hsource := by
    unfold mark Message.note
    rw [Json.Fields.find?_insert_of_ne _ _ hsource, Json.Fields.find?_insert_of_ne _ _ hsynthetic]
  same := rfl

variable (trust : Trust)

/-- **The messages a record asks for and its tool is trusted with.** -/
def granted (record : Record) : List Message :=
  (record.result.directives.filter fun d => !trust.rejects record.toolName d).map
    fun | .append m => m

/-- **What a record adds is what it asks for, marked**, as far as its tool is
trusted. -/
theorem forall₂_marked_admitted (record : Record) :
    List.Forall₂ (Marked record.toolName) (trust.granted record) (trust.admitted record) := by
  unfold granted admitted
  generalize record.result.directives = directives
  induction directives with
  | nil => exact .nil
  | cons directive directives ih =>
    obtain ⟨m⟩ := directive
    cases hrejects : trust.rejects record.toolName (.append m) with
    | true =>
      rw [List.filter_cons_of_neg (by simp [hrejects]), List.filterMap_cons_none]
      · exact ih
      · rw [admit?_eq, if_pos hrejects]
    | false =>
      rw [List.filter_cons_of_pos (by simp [hrejects]), List.filterMap_cons_some]
      · exact .cons (marked_mark _ _) ih
      · rw [admit?_eq, if_neg (by simp [hrejects])]

end Trust

/-! ## Curbed runs -/

/-- A run whose batches are curbed. -/
def Run.curbed (trust : Trust) (r : Run) : Run :=
  { r with batches := r.batches.map trust.curbBatch }

/-- A report on a curbed run. -/
def Run.Report.curbed (trust : Trust) (report : Run.Report) : Run.Report :=
  { report with run := report.run.curbed trust }

namespace Agent

variable (a : Agent) (t : Task) (d : Option Nat)

/-- **An agent whose tools are curbed.** -/
def curbed : Agent :=
  { a with registry := a.trust.curbRegistry a.registry }

variable {a t d} {r r' : Run} {c : Completion}

/-- **A curbed run asks the same.** -/
theorem request_curbed (a : Agent) (t : Task) (r : Run) :
    a.curbed.request t (r.curbed a.trust) = a.request t r := by
  unfold request
  rw [show a.curbed.registry.definitions = a.registry.definitions from
    Trust.definitions_curbRegistry _ _]
  rfl

/-- It gets the same reply. -/
theorem replyTo_curbed (a : Agent) (t : Task) (r : Run) :
    a.curbed.replyTo t (r.curbed a.trust) = a.replyTo t r := by
  unfold replyTo
  rw [request_curbed]
  rfl

/-- The same tools were invoked in it. -/
theorem invoked_curbed (trust : Trust) (r : Run) : (r.curbed trust).invoked = r.invoked := by
  unfold Run.invoked Run.curbed
  rw [List.flatMap_map]
  rfl

/-- **It executes the same calls**, with curbed tools. -/
theorem execute_curbed (a : Agent) (t : Task) (r : Run) (c : Completion) :
    a.curbed.execute t (r.curbed a.trust) c = a.trust.curbBatch (a.execute t r c) := by
  unfold execute
  rw [invoked_curbed]
  exact Trust.execute_curbRegistry _ _ _ _ _ _ _

/-- **Curbed records add the same to the conversation.** -/
theorem callMessages_curbed (a : Agent) (c : Completion) (batch : Batch) :
    a.curbed.callMessages c (a.trust.curbBatch batch) = a.callMessages c batch := by
  unfold callMessages Trust.curbBatch
  rw [List.flatMap_map]
  refine congrArg (_ :: ·) (List.flatMap_congr fun record _ => ?_)
  exact congrArg (record.message :: ·) (Trust.admitted_curbRecord a.trust record)

/-- **They add the same to the next request.** -/
theorem recordItems_curbed (a : Agent) (batch : Batch) :
    (a.trust.curbBatch batch).records.flatMap a.curbed.recordItems
      = batch.records.flatMap a.recordItems := by
  unfold Trust.curbBatch
  rw [List.flatMap_map]
  refine List.flatMap_congr fun record _ => ?_
  exact congrArg (fun ms => record.payload :: a.renderer.items ms)
    (Trust.admitted_curbRecord a.trust record)

theorem heard_curbed (a : Agent) (t : Task) (r : Run) (c : Completion) :
    a.curbed.heard t (r.curbed a.trust) c = (a.heard t r c).curbed a.trust := by
  unfold heard
  rw [request_curbed, replyTo_curbed]
  rfl

theorem afterCalls_curbed (a : Agent) (t : Task) (r : Run) (c : Completion) :
    a.curbed.afterCalls t (r.curbed a.trust) c = (a.afterCalls t r c).curbed a.trust := by
  unfold afterCalls
  rw [execute_curbed, callMessages_curbed, recordItems_curbed, heard_curbed]
  unfold Run.finishCalls Run.curbed
  simp only [List.map_append, List.map_cons, List.map_nil]
  rfl

theorem afterCandidate_curbed (a : Agent) (t : Task) (r : Run) (c : Completion)
    (w : Answer.Validator) :
    a.curbed.afterCandidate t (r.curbed a.trust) c w
      = (a.afterCandidate t r c w).curbed a.trust := by
  unfold afterCandidate afterAnswer
  rw [heard_curbed]
  rfl

theorem Hears.curbed (h : a.Hears t d r c) : a.curbed.Hears t d (r.curbed a.trust) c where
  reply := by
    rw [replyTo_curbed]
    exact h.reply
  intime := by
    rw [replyTo_curbed]
    exact h.intime

/-- **A step is the same step where tools are curbed.** -/
theorem StepsTo.curbed (h : a.StepsTo t d r c r') :
    a.curbed.StepsTo t d (r.curbed a.trust) c (r'.curbed a.trust) := by
  cases h with
  | calls hears asks within intime =>
    rw [← afterCalls_curbed]
    refine .calls hears.curbed asks within ?_
    rw [replyTo_curbed, execute_curbed]
    exact intime
  | @rejected w rejection n hears asks validator verdict =>
    have hstep := StepsTo.rejected hears.curbed asks validator verdict
    unfold afterRejection at hstep
    rw [afterCandidate_curbed] at hstep
    exact hstep

/-- **An end is the same end.** -/
theorem Closes.curbed {report : Run.Report} (h : a.Closes t d r report) :
    a.curbed.Closes t d (r.curbed a.trust) (report.curbed a.trust) := by
  cases h with
  -- the reply to a curbed run is the same, and so is the time it takes
  | @late time missed =>
    have hmissed : missed? d ((r.curbed a.trust).clock
        + (a.curbed.replyTo t (r.curbed a.trust)).delay) = some time := by
      rw [replyTo_curbed]
      exact missed
    have hclose := Closes.late hmissed
    rw [request_curbed] at hclose
    exact hclose
  | @failed f reply intime =>
    have hreply : (a.curbed.replyTo t (r.curbed a.trust)).outcome = .error f := by
      rw [replyTo_curbed]
      exact reply
    have hintime : missed? d ((r.curbed a.trust).clock
        + (a.curbed.replyTo t (r.curbed a.trust)).delay) = none := by
      rw [replyTo_curbed]
      exact intime
    have hclose := Closes.failed hreply hintime
    rw [request_curbed, replyTo_curbed] at hclose
    exact hclose
  | tooMany hears asks beyond =>
    have hclose := Closes.tooMany hears.curbed asks beyond
    rw [heard_curbed] at hclose
    exact hclose
  | @abandoned c time hears asks within missed =>
    have hmissed : missed? d ((r.curbed a.trust).clock
        + (a.curbed.replyTo t (r.curbed a.trust)).delay
        + (a.curbed.execute t (r.curbed a.trust) c).duration) = some time := by
      rw [replyTo_curbed, execute_curbed]
      exact missed
    have hclose := Closes.abandoned hears.curbed asks within hmissed
    rw [heard_curbed, execute_curbed] at hclose
    exact hclose
  | answered hears asks validator =>
    have hclose := Closes.answered hears.curbed asks validator
    unfold afterAnswer at hclose
    rw [heard_curbed] at hclose
    exact hclose
  | accepted hears asks validator verdict =>
    have hclose := Closes.accepted hears.curbed asks validator verdict
    rw [afterCandidate_curbed] at hclose
    exact hclose
  | gaveUp hears asks validator verdict =>
    have hclose := Closes.gaveUp hears.curbed asks validator verdict
    rw [afterCandidate_curbed] at hclose
    exact hclose

/-- **Curbed steps come to the same**, curbed. -/
theorem steps_curbed (n : Nat) (r : Run) :
    a.curbed.steps t d n (r.curbed a.trust) = (a.steps t d n r).curbed a.trust := by
  induction n generalizing r with
  | zero => rfl
  | succ n ih =>
    rcases stepsTo_or_closes a t d r with ⟨c, r', h⟩ | ⟨report, h⟩
    · rw [h.steps_eq, h.curbed.steps_eq, ih]
    · rw [h.steps_eq, h.curbed.steps_eq]

/-- **A run with curbed tools is the run, curbed.** -/
theorem run_curbed (a : Agent) (t : Task) (messages : List Message) :
    a.curbed.run t messages = (a.run t messages).curbed a.trust :=
  steps_curbed a.limits.maxSteps (.start a t messages)

/-! ## Pieces of a conversation -/

/-- **A piece of a conversation**, by where it comes from. -/
inductive Piece where
  /-- What the model has said, and the calls it has asked for. -/
  | said (response : Completion)
  /-- The result of a call, and what its tool has added. -/
  | told (record : Record) (added : List Message)
  /-- What the model is told about a candidate. -/
  | corrected (rejection : Answer.Rejection)

/-- The messages of a piece. -/
def Piece.messages : Piece → List Message
  | .said c => [if c.hasToolCalls then .assistantWithCalls c.content c.toolCalls
      else .assistant c.content]
  | .told record added => record.message :: added
  | .corrected rejection => [.user rejection.prompt]

/-- **A piece is from a run.** -/
inductive Piece.From (a : Agent) (r : Run) : Piece → Prop
  /-- The response is one of the run's. -/
  | said {c : Completion} (heard : c ∈ r.completions) : From a r (.said c)
  /-- The record answers a call of the run, the handler of the tool that was
  called has asked for all that it asks for, and what is added is marked. -/
  | told {c : Completion} {call : ToolCall} {batch : Batch} {record : Record}
      {added : List Message} (heard : c ∈ r.completions) (called : call ∈ c.toolCalls)
      (answers : record.Answers a.provider.mode call) (executed : batch ∈ r.batches)
      (recorded : record ∈ batch.records)
      (asked : record.result.directives ≠ [] →
        ∃ tool invocation, a.registry.find? record.toolName = some tool
          ∧ (tool.handler invocation).ending = .finished record.result)
      (marked : List.Forall₂ (Trust.Marked record.toolName) (a.trust.granted record) added) :
      From a r (.told record added)
  /-- A candidate of the run was rejected for that. -/
  | corrected {c : Completion} {w : Answer.Validator} {rejection : Answer.Rejection} {n : Nat}
      (heard : c ∈ r.completions) (verdict : (w.receive c.content).2 = .retry rejection n) :
      From a r (.corrected rejection)

/-- **A run has added pieces only.** -/
def Pieced (a : Agent) (messages : List Message) (r : Run) : Prop :=
  ∃ pieces : List Piece, r.messages = messages ++ pieces.flatMap Piece.messages
    ∧ ∀ piece ∈ pieces, piece.From a r

variable {messages : List Message}

/-- A piece of a run stays one. -/
theorem Piece.From.mono {piece : Piece} (h : piece.From a r)
    (hcompletions : ∀ c ∈ r.completions, c ∈ r'.completions)
    (hbatches : ∀ batch ∈ r.batches, batch ∈ r'.batches) : piece.From a r' := by
  cases h with
  | said heard => exact .said (hcompletions _ heard)
  | told heard called answers executed recorded asked marked =>
    exact .told (hcompletions _ heard) called answers (hbatches _ executed) recorded asked marked
  | corrected heard verdict => exact .corrected (hcompletions _ heard) verdict

/-- **Pieces more keep a run in pieces.** -/
theorem Pieced.append (h : Pieced a messages r) (pieces : List Piece)
    (hmessages : r'.messages = r.messages ++ pieces.flatMap Piece.messages)
    (hcompletions : ∀ c ∈ r.completions, c ∈ r'.completions)
    (hbatches : ∀ batch ∈ r.batches, batch ∈ r'.batches)
    (hpieces : ∀ piece ∈ pieces, piece.From a r') : Pieced a messages r' := by
  obtain ⟨earlier, hearlier, hfrom⟩ := h
  refine ⟨earlier ++ pieces, ?_, fun piece hpiece => ?_⟩
  · rw [hmessages, hearlier, List.flatMap_append, List.append_assoc]
  · rcases List.mem_append.mp hpiece with hpiece | hpiece
    · exact (hfrom piece hpiece).mono hcompletions hbatches
    · exact hpieces piece hpiece

/-- **What a step adds is in pieces.** -/
theorem StepsTo.pieced (h : a.StepsTo t d r c r') (hr : Pieced a messages r) :
    Pieced a messages r' := by
  have hmem : c ∈ r'.completions := by simp [h.completions_eq]
  have hcompletions : ∀ c' ∈ r.completions, c' ∈ r'.completions := fun c' hc' => by
    simp [h.completions_eq, hc']
  cases h with
  | calls hears asks within intime =>
    have hbatch : a.execute t r c ∈ (a.afterCalls t r c).batches :=
      List.mem_append.mpr (.inr List.mem_cons_self)
    -- one piece for the response, and one for each record of its calls
    refine hr.append (.said c :: (a.execute t r c).records.map fun record =>
      .told record (a.trust.admitted record)) ?_ hcompletions
      (fun batch hbatch => List.mem_append.mpr (.inl hbatch)) fun piece hpiece => ?_
    · rw [List.flatMap_cons, List.flatMap_map, Piece.messages, if_pos asks]
      rfl
    · rcases List.mem_cons.mp hpiece with rfl | hpiece
      · exact .said hmem
      · obtain ⟨record, hrecord, rfl⟩ := List.mem_map.mp hpiece
        obtain ⟨call, hcall, hanswers⟩ := Tool.exists_answers_of_mem_execute hrecord
        refine .told hmem hcall hanswers hbatch hrecord (fun hne => ?_)
          (a.trust.forall₂_marked_admitted record)
        obtain ⟨directive, hdirective⟩ := List.exists_mem_of_ne_nil _ hne
        exact Tool.exists_handler_of_mem_execute hrecord hdirective
  | @rejected w rejection n hears asks validator verdict =>
    refine hr.append [.said c, .corrected rejection] ?_ hcompletions (fun batch h => h)
      fun piece hpiece => ?_
    · show r.messages ++ [.assistant c.content] ++ [.user rejection.prompt] = _
      rw [List.flatMap_cons, List.flatMap_singleton, Piece.messages, asks, List.append_assoc]
      rfl
    · rcases List.mem_cons.mp hpiece with rfl | hpiece
      · exact .said hmem
      · obtain rfl := List.mem_singleton.mp hpiece
        exact .corrected hmem verdict

/-- An end forgets no responses. -/
theorem Closes.mem_completions {report : Run.Report} (h : a.Closes t d r report) :
    ∀ c ∈ r.completions, c ∈ report.run.completions := by
  intro c hc
  rcases h.completions_eq with heq | ⟨c', heq⟩
  · exact heq ▸ hc
  · exact heq ▸ List.mem_append.mpr (.inl hc)

/-- A response that is an answer is one piece more. -/
theorem Pieced.said (hr : Pieced a messages r) {request : Provider.Request}
    (hheard : r'.exchanges = r.exchanges ++ [⟨request, some (.ok c)⟩])
    (asks : c.hasToolCalls = false) (hmessages : r'.messages = r.messages ++ [.assistant c.content])
    (hbatches : r'.batches = r.batches) : Pieced a messages r' := by
  have heq := completions_of_exchanges hheard
  refine hr.append [.said c] ?_ (fun c' hc' => heq ▸ List.mem_append.mpr (.inl hc'))
    (fun batch hbatch => hbatches ▸ hbatch) fun piece hpiece => ?_
  · rw [hmessages, List.flatMap_singleton, Piece.messages, if_neg (by simp [asks])]
  · obtain rfl := List.mem_singleton.mp hpiece
    exact .said (heq ▸ List.mem_append.mpr (.inr List.mem_cons_self))

/-- **What an end adds is in pieces.** -/
theorem Closes.pieced {report : Run.Report} (h : a.Closes t d r report)
    (hr : Pieced a messages r) : Pieced a messages report.run := by
  have hsilent (hmessages : report.run.messages = r.messages)
      (hbatches : report.run.batches = r.batches) : Pieced a messages report.run :=
    hr.append [] (hmessages.trans (List.append_nil _).symm) h.mem_completions
      (fun batch hbatch => hbatches ▸ hbatch) (by simp)
  cases h with
  | late missed => exact hsilent rfl rfl
  | failed reply intime => exact hsilent rfl rfl
  | tooMany hears asks beyond => exact hsilent rfl rfl
  | abandoned hears asks within missed => exact hsilent rfl rfl
  | answered hears asks validator => exact hr.said rfl asks rfl rfl
  | accepted hears asks validator verdict => exact hr.said rfl asks rfl rfl
  | gaveUp hears asks validator verdict => exact hr.said rfl asks rfl rfl

/-! ## Conversations and requests -/

theorem pieced_start (a : Agent) (t : Task) (messages : List Message) :
    Pieced a messages (.start a t messages) :=
  ⟨[], (List.append_nil messages).symm, by simp⟩

/-- **The conversation of every run is in pieces.** -/
theorem pieced_runUntil (a : Agent) (t : Task) (d : Option Nat) (messages : List Message) :
    Pieced a messages (a.runUntil d t messages).run :=
  steps_induction (P := Pieced a messages) (Q := fun report => Pieced a messages report.run)
    (fun _ _ _ hr hstep => hstep.pieced hr) (fun _ _ hr hclose => hclose.pieced hr)
    (fun _ hr => hr) _ (pieced_start a t messages)

/-- The conversation of every run of a course is, too. -/
theorem pieced_of_course {k : Nat} (h : (a.course t d messages)[k]? = some r) :
    Pieced a messages r := by
  induction k generalizing r with
  | zero => exact eq_start_of_course h ▸ pieced_start a t messages
  | succ k ih =>
    obtain ⟨r₀, c, hr₀, hstep⟩ := exists_stepsTo_of_course h
    exact hstep.pieced (ih hr₀)

/-- A request carries everything, or what is new. -/
theorem outgoing_eq_or (a : Agent) (r : Run) :
    a.outgoing r = a.renderer.items r.messages ∨ r.followUp = some (a.outgoing r) := by
  unfold outgoing
  split
  · rename_i heq
    exact .inr heq
  · exact .inl rfl

/-- **What a request carries it takes from the conversation.** -/
theorem renders_of_course {k : Nat} (h : (a.course t d messages)[k]? = some r) :
    ∃ before after, r.messages = before ++ after
      ∧ a.Renders r.batches after (a.request t r).messages := by
  show ∃ before after, r.messages = before ++ after ∧ a.Renders r.batches after (a.outgoing r)
  rcases outgoing_eq_or a r with hall | hnew
  · rw [hall]
    exact ⟨[], r.messages, rfl, renders_items r.messages⟩
  · cases k with
    | zero =>
      -- nothing is new at the beginning
      rw [eq_start_of_course h] at hnew
      cases hnew
    | succ k =>
      obtain ⟨r₀, c, -, hstep⟩ := exists_stepsTo_of_course h
      obtain ⟨said, rest, items, -, hmessages, hitems, hrenders⟩ := hstep.followUp_renders
      obtain rfl := Option.some.inj (hitems.symm.trans hnew)
      refine ⟨r₀.messages ++ [said], rest, ?_, hrenders⟩
      rw [hmessages, List.append_assoc]
      rfl

end Agent

/-- **Two runs come to the same**, as far as anybody but the tools can see. -/
structure Run.Report.ComesTo (report report' : Run.Report) : Prop where
  /-- They ask the same. -/
  requests : report.run.requests = report'.run.requests
  /-- They answer the same. -/
  payload : report.payload = report'.payload
  /-- They end with the same conversation. -/
  messages : report.run.messages = report'.run.messages
  /-- They end behind the same response. -/
  responseId : report.run.responseId = report'.run.responseId
  /-- They use the same number of tokens. -/
  usage : report.run.usage = report'.run.usage

namespace Agent

/-- **What tools may do to a run.** What a tool is not trusted with may as well
not be asked for. What it is trusted with is in the conversation behind the
result of its call, as it was asked for and marked, and requests take what they
carry from the conversation. -/
theorem directives_run (a : Agent) (t : Task) (messages : List Message) :
    let report := a.run t messages
    let course := a.course t (some a.limits.deadline) messages
    (a.curbed.run t messages).ComesTo report
      ∧ Pieced a messages report.run
      ∧ report.run.requests = course.map (a.request t)
      ∧ ∀ r ∈ course, Pieced a messages r
        ∧ (a.request t r).instructions = instructions r.messages
        ∧ ∃ before after, r.messages = before ++ after
          ∧ a.Renders r.batches after (a.request t r).messages := by
  refine ⟨?_, pieced_runUntil a t _ messages, requests_runUntil messages, fun r hr => ?_⟩
  · rw [run_curbed]
    exact ⟨rfl, rfl, rfl, rfl, rfl⟩
  · obtain ⟨k, hk⟩ := List.mem_iff_getElem?.mp hr
    exact ⟨pieced_of_course hk, rfl, renders_of_course hk⟩

end Agent

end Colloquy
