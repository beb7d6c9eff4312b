import Colloquy.Proofs.Agent.Step
import Colloquy.Proofs.Tool.Records
import Mathlib.Algebra.GroupWithZero.Nat

/-!
# What a run knows

Everything a run keeps is what it has heard, looked at in one way or
another. The tokens are those of the responses; the calls are counted from
them; the validator has been given those that asked for no calls; the tools
were invoked for the others, each batch told of the ones before it. And the
conversation is what it was at the beginning with one segment for each
response (`conversation`).

These are the accounts of a run (`Account`), and they are right at every
step and whenever a run ends without failing. That needs one induction,
which is done here, on what a single response does (`Takes`).
-/

namespace Colloquy

open Provider (Completion Exchange)
open Tool (Batch Record)

/-- **What each of several things comes to after those before it.** -/
def afterEach {α β : Type} (f : List α → α → β) (xs : List α) : List β :=
  xs.mapIdx fun i x => f (xs.take i) x

/-- One thing more comes to one thing more. -/
theorem afterEach_concat {α β : Type} (f : List α → α → β) (xs : List α) (x : α) :
    afterEach f (xs ++ [x]) = afterEach f xs ++ [f xs x] := by
  unfold afterEach
  rw [List.mapIdx_concat, List.take_left]
  -- those before do not see the new one
  refine congrArg (· ++ _) (List.mapIdx_eq_mapIdx_iff.mpr fun i hi => ?_)
  rw [List.take_append_of_le_length (Nat.le_of_lt hi)]

/-- A response that asks for no calls has none. -/
theorem Provider.Completion.toolCalls_eq_nil {c : Completion} (hc : c.hasToolCalls = false) :
    c.toolCalls = [] := by
  simpa [Completion.hasToolCalls] using hc

namespace Agent

variable (a : Agent) (t : Task)

/-! ## The same, from the responses alone -/

/-- **How many calls responses ask for**, as far as they are counted. -/
def callCount (cs : List Completion) : Nat :=
  min (cs.map fun c => c.toolCalls.length).sum Limits.greatestCalls

/-- **The tools invoked for responses**, in order. -/
def invokedFor (cs : List Completion) : List String :=
  cs.foldl
    (fun past c =>
      past ++ (Tool.execute a.provider.mode a.parallel a.registry t.context past
        c.toolCalls).invoked) []

/-- **What the calls of a response come to** when there were others before
it. -/
def batchAfter (earlier : List Completion) (c : Completion) : Batch :=
  Tool.execute a.provider.mode a.parallel a.registry t.context (a.invokedFor t earlier) c.toolCalls

/-- **The validator after responses**: it is given those that ask for no
calls. -/
def validatorAfter (cs : List Completion) : Option Answer.Validator :=
  t.responseSchema.map fun _ =>
    (cs.filter fun c => !c.hasToolCalls).foldl (fun w c => (w.receive c.content).1)
      (.ofAttempts a.maxAttempts)

/-- **What the validator says** about a response after others. -/
def verdictAfter (earlier : List Completion) (c : Completion) : Option Answer.Verdict :=
  (a.validatorAfter t earlier).map fun w => (w.receive c.content).2

/-- The last id among a given one and those of responses. -/
def lastId (id : Option String) (cs : List Completion) : Option String :=
  cs.foldl (fun id c => c.responseId.or id) id

/-- **What a conversation is told of a call**: its result, in one part, and
right after it what its tool may add. -/
def recordSegment (record : Record) : List Message :=
  .toolPart record.callId record.toolName (Tool.resultPart record.result.content)
    :: a.trust.admitted record

/-- **What a response adds to the conversation**, given how many calls there
are with its own, what they come to, and what the validator says. -/
def segment (calls : Nat) (batch : Batch) (verdict : Option Answer.Verdict) (c : Completion) :
    List Message :=
  if c.hasToolCalls then
    if calls ≤ a.limits.maxToolCalls then
      .assistantWithCalls c.content c.toolCalls :: batch.records.flatMap a.recordSegment
    else []
  else
    .assistant c.content ::
      match verdict with
      | some (.retry rejection _) => [.user rejection.prompt]
      | _ => []

/-- **What a response adds to the conversation after others.** -/
def segmentAfter (earlier : List Completion) (c : Completion) : List Message :=
  a.segment (callCount (earlier ++ [c])) (a.batchAfter t earlier c) (a.verdictAfter t earlier c) c

/-- **The conversation after responses.** -/
def conversation (messages : List Message) (cs : List Completion) : List Message :=
  messages ++ (afterEach (a.segmentAfter t) cs).flatten

/-- **One record answers each call**, whatever came before. -/
theorem forall₂_answers_batchAfter (a : Agent) (t : Task) (earlier : List Completion)
    (c : Completion) :
    List.Forall₂ (Record.Answers a.provider.mode) c.toolCalls (a.batchAfter t earlier c).records :=
  Tool.forall₂_answers_execute _ _ _ _ _ _

/-! ## One response more -/

/-- The calls of one response more are counted. -/
theorem plusCalls_callCount (cs : List Completion) (c : Completion) :
    Run.plusCalls (callCount cs) c.toolCalls.length = callCount (cs ++ [c]) := by
  simp only [Run.plusCalls, callCount, List.map_append, List.sum_append, List.map_cons,
    List.map_nil, List.sum_singleton]
  omega

/-- The tools of one response more are invoked after the others. -/
theorem invokedFor_concat (cs : List Completion) (c : Completion) :
    a.invokedFor t (cs ++ [c]) = a.invokedFor t cs ++ (a.batchAfter t cs c).invoked := by
  rw [invokedFor, List.foldl_append]
  rfl

/-- A response that asks for calls is not shown to the validator. -/
theorem validatorAfter_concat_calls (cs : List Completion) {c : Completion}
    (hc : c.hasToolCalls = true) : a.validatorAfter t (cs ++ [c]) = a.validatorAfter t cs := by
  rw [validatorAfter, List.filter_append, List.filter_singleton, hc]
  show t.responseSchema.map (fun _ => List.foldl _ _ (_ ++ [])) = _
  rw [List.append_nil]
  rfl

/-- Any other response is. -/
theorem validatorAfter_concat (cs : List Completion) {c : Completion}
    (hc : c.hasToolCalls = false) :
    a.validatorAfter t (cs ++ [c])
      = (a.validatorAfter t cs).map fun w => (w.receive c.content).1 := by
  rw [validatorAfter, List.filter_append, List.filter_singleton, hc]
  show t.responseSchema.map (fun _ => List.foldl _ _ (_ ++ [c])) = _
  rw [List.foldl_append, validatorAfter, Option.map_map]
  rfl

/-- One response more has an id, or the last one is still the last. -/
theorem lastId_concat (id : Option String) (cs : List Completion) (c : Completion) :
    lastId id (cs ++ [c]) = c.responseId.or (lastId id cs) := by
  rw [lastId, List.foldl_append]
  rfl

/-- **One response more is one segment more.** -/
theorem conversation_concat (messages : List Message) (cs : List Completion) (c : Completion) :
    a.conversation t messages (cs ++ [c])
      = a.conversation t messages cs ++ a.segmentAfter t cs c := by
  rw [conversation, afterEach_concat, List.flatten_concat, ← List.append_assoc]
  rfl

/-! ## What a single response does -/

/-- What the validator of a run says about a response. -/
def verdictOf (r : Run) (c : Completion) : Option Answer.Verdict :=
  r.validator.map fun w => (w.receive c.content).2

/-- **A run takes a response**: what it has after it, compared with what it
had before. -/
structure Takes (r : Run) (c : Completion) (r' : Run) : Prop where
  /-- The response is one more exchange. -/
  exchanges : r'.exchanges = r.exchanges ++ [⟨a.request t r, some (.ok c)⟩]
  /-- The conversation has one more segment. -/
  messages : r'.messages
    = r.messages ++ a.segment (Run.plusCalls r.callsUsed c.toolCalls.length) (a.execute t r c)
        (verdictOf r c) c
  /-- Its calls are counted. -/
  callsUsed : r'.callsUsed = Run.plusCalls r.callsUsed c.toolCalls.length
  /-- Its tokens are counted. -/
  usage : r'.usage = r.usage.add c.usage
  /-- Its id, if it has one, is the last one. -/
  responseId : r'.responseId = c.responseId.or r.responseId
  /-- The validator has looked at it, unless it asks for calls. -/
  validator : r'.validator
    = if c.hasToolCalls then r.validator else r.validator.map fun w => (w.receive c.content).1

variable {a t} {d : Option Nat} {r r' : Run} {c : Completion}

/-- A response without calls adds no calls. -/
theorem plusCalls_of_no_calls (hused : r.callsUsed ≤ Limits.greatestCalls)
    (hc : c.hasToolCalls = false) :
    Run.plusCalls r.callsUsed c.toolCalls.length = r.callsUsed := by
  rw [Completion.toolCalls_eq_nil hc]
  exact Nat.min_eq_left hused

/-- What the records of a batch add is one segment for each of them. -/
theorem recordMessages_eq (a : Agent) : a.recordMessages = a.recordSegment := by
  funext record
  rw [recordMessages, Tool.Record.message_eq]
  rfl

/-- The segment of calls that are executed. -/
theorem segment_calls (hc : c.hasToolCalls = true) {n : Nat} (hn : n ≤ a.limits.maxToolCalls)
    (batch : Batch) (verdict : Option Answer.Verdict) :
    a.segment n batch verdict c = a.callMessages c batch := by
  unfold segment
  rw [if_pos hc, if_pos hn, callMessages, recordMessages_eq]

/-- The segment of calls that are too many. -/
theorem segment_beyond (hc : c.hasToolCalls = true) {n : Nat} (hn : a.limits.maxToolCalls < n)
    (batch : Batch) (verdict : Option Answer.Verdict) : a.segment n batch verdict c = [] := by
  unfold segment
  rw [if_pos hc, if_neg (Nat.not_le.mpr hn)]

/-- The segment of what is said and not rejected. -/
theorem segment_said (hc : c.hasToolCalls = false) (n : Nat) (batch : Batch)
    {verdict : Option Answer.Verdict}
    (hverdict : ∀ rejection attempts, verdict ≠ some (.retry rejection attempts)) :
    a.segment n batch verdict c = [.assistant c.content] := by
  unfold segment
  rw [if_neg (by simp [hc])]
  split
  · exact absurd rfl (hverdict _ _)
  · rfl

/-- The segment of a rejected candidate. -/
theorem segment_rejected (hc : c.hasToolCalls = false) (n : Nat) (batch : Batch)
    (rejection : Answer.Rejection) (attempts : Nat) :
    a.segment n batch (some (.retry rejection attempts)) c
      = [.assistant c.content, .user rejection.prompt] := by
  unfold segment
  rw [if_neg (by simp [hc])]

/-- **Every step takes a response.** -/
theorem StepsTo.takes (hused : r.callsUsed ≤ Limits.greatestCalls) (h : a.StepsTo t d r c r') :
    a.Takes t r c r' := by
  cases h with
  | calls hears asks within intime =>
    exact {
      exchanges := rfl
      messages := by rw [segment_calls asks within]; rfl
      callsUsed := rfl
      usage := rfl
      responseId := rfl
      validator := by rw [if_pos asks]; rfl }
  | @rejected w rejection attempts hears asks validator verdict =>
    have hverdict : verdictOf r c = some (.retry rejection attempts) := by
      rw [verdictOf, validator, Option.map_some, verdict]
    exact {
      exchanges := rfl
      messages := by
        rw [hverdict, segment_rejected asks]
        exact List.append_assoc r.messages [.assistant c.content] [.user rejection.prompt]
      callsUsed := by rw [plusCalls_of_no_calls hused asks]; rfl
      usage := rfl
      responseId := rfl
      validator := by rw [if_neg (by simp [asks]), validator]; rfl }

/-- What is said and not rejected is taken. -/
theorem takes_said (hused : r.callsUsed ≤ Limits.greatestCalls) (hc : c.hasToolCalls = false)
    (hverdict : ∀ rejection attempts, verdictOf r c ≠ some (.retry rejection attempts))
    (validator : Option Answer.Validator)
    (hvalidator : validator = r.validator.map fun w => (w.receive c.content).1) :
    a.Takes t r c { a.afterAnswer t r c with validator := validator } where
  exchanges := rfl
  messages := by rw [segment_said hc _ _ hverdict]; rfl
  callsUsed := by rw [plusCalls_of_no_calls hused hc]; rfl
  usage := rfl
  responseId := rfl
  validator := by rw [if_neg (by simp [hc])]; exact hvalidator

/-- **Every end without a failure takes a response.** -/
theorem Closes.takes (hused : r.callsUsed ≤ Limits.greatestCalls) {report : Run.Report}
    (h : a.Closes t d r report) {e : Run.Ending} (hok : report.ending = .ok e) :
    ∃ c, a.Takes t r c report.run := by
  cases h with
  | late => cases hok
  | failed => cases hok
  | abandoned => cases hok
  | @tooMany c hears asks beyond =>
    exact ⟨c, {
      exchanges := rfl
      messages := by rw [segment_beyond asks beyond, List.append_nil]; rfl
      callsUsed := rfl
      usage := rfl
      responseId := rfl
      validator := by rw [if_pos asks]; rfl }⟩
  | @answered c hears asks validator =>
    have hverdict : verdictOf r c = none := by rw [verdictOf, validator, Option.map_none]
    exact ⟨c, takes_said hused asks (by simp [hverdict]) r.validator
      (by rw [validator, Option.map_none])⟩
  | @accepted c w answer attempts hears asks validator verdict =>
    have hverdict : verdictOf r c = some (.valid answer attempts) := by
      rw [verdictOf, validator, Option.map_some, verdict]
    exact ⟨c, takes_said hused asks (by simp [hverdict]) _ (by rw [validator, Option.map_some])⟩
  | @gaveUp c w rejection attempts history hears asks validator verdict =>
    have hverdict : verdictOf r c = some (.fail rejection attempts history) := by
      rw [verdictOf, validator, Option.map_some, verdict]
    exact ⟨c, takes_said hused asks (by simp [hverdict]) _ (by rw [validator, Option.map_some])⟩

/-! ## The accounts of a run -/

variable (a t)

/-- **The accounts of a run are right**: what it keeps is what the responses
come to. -/
structure Account (messages : List Message) (r : Run) : Prop where
  /-- Every request was answered with a completion. -/
  answered : r.exchanges.map Exchange.completion? = r.completions.map some
  /-- The conversation. -/
  messages : r.messages = a.conversation t messages r.completions
  /-- The calls. -/
  callsUsed : r.callsUsed = callCount r.completions
  /-- The tokens. -/
  usage : r.usage = .ofList (r.completions.map Completion.usage)
  /-- The last id. -/
  responseId : r.responseId = lastId t.previousResponseId r.completions
  /-- The validator. -/
  validator : r.validator = a.validatorAfter t r.completions

/-- **The accounts of a run that goes on**: all the calls it has heard of were
executed. -/
structure Ledger (messages : List Message) (r : Run) : Prop extends a.Account t messages r where
  /-- The tools. -/
  invoked : r.invoked = a.invokedFor t r.completions

variable {a t} {messages : List Message}

/-- Counted calls are never more than can be counted. -/
theorem Account.callsUsed_le (h : a.Account t messages r) : r.callsUsed ≤ Limits.greatestCalls := by
  rw [h.callsUsed]
  exact Nat.min_le_right _ _

/-- The accounts of a run at its beginning are right. -/
theorem Ledger.start (a : Agent) (t : Task) (messages : List Message) :
    a.Ledger t messages (.start a t messages) where
  answered := rfl
  messages := (List.append_nil messages).symm
  callsUsed := rfl
  usage := rfl
  responseId := rfl
  validator := rfl
  invoked := rfl

theorem Takes.completions (h : a.Takes t r c r') : r'.completions = r.completions ++ [c] :=
  completions_of_exchanges h.exchanges

/-- Calls are executed for what the responses before them come to. -/
theorem Ledger.execute_eq (h : a.Ledger t messages r) (c : Completion) :
    a.execute t r c = a.batchAfter t r.completions c := by
  rw [execute, h.invoked]
  rfl

/-- **Taking a response keeps the accounts.** -/
theorem Ledger.takes (h : a.Ledger t messages r) (hr : a.Takes t r c r') :
    a.Account t messages r' where
  answered := by
    rw [hr.completions, hr.exchanges, List.map_append, List.map_append, h.answered]
    rfl
  messages := by
    rw [hr.completions, conversation_concat, hr.messages, h.messages, h.callsUsed,
      plusCalls_callCount, h.execute_eq, verdictOf, h.validator]
    rfl
  callsUsed := by rw [hr.completions, hr.callsUsed, h.callsUsed, plusCalls_callCount]
  usage := by
    rw [hr.completions, hr.usage, h.usage, Usage.Sum.ofList, Usage.Sum.ofList, List.map_append,
      List.foldl_append]
    rfl
  responseId := by rw [hr.completions, hr.responseId, h.responseId, lastId_concat]
  validator := by
    rw [hr.completions, hr.validator, h.validator]
    cases hc : c.hasToolCalls with
    | true => rw [if_pos rfl, validatorAfter_concat_calls a t _ hc]
    | false => rw [if_neg (by simp), validatorAfter_concat a t _ hc]

/-- **A step keeps the ledger.** -/
theorem Ledger.step (h : a.Ledger t messages r) (hr : a.StepsTo t d r c r') :
    a.Ledger t messages r' where
  toAccount := h.takes (hr.takes h.callsUsed_le)
  invoked := by
    rw [hr.completions_eq, invokedFor_concat, ← h.execute_eq, ← h.invoked]
    cases hr with
    | calls hears asks within intime =>
      show (r.batches ++ [a.execute t r c]).flatMap Batch.invoked = _
      rw [List.flatMap_append, List.flatMap_singleton]
      rfl
    | rejected hears asks validator verdict =>
      -- a response without calls has an empty batch
      rw [execute, Completion.toolCalls_eq_nil asks, Tool.invoked_execute_nil, List.append_nil]
      rfl

/-- **The accounts of a run that ends without failing are right.** -/
theorem account_runUntil {e : Run.Ending} (h : (a.runUntil d t messages).ending = .ok e) :
    a.Account t messages (a.runUntil d t messages).run := by
  revert h
  exact steps_induction (P := a.Ledger t messages)
    (Q := fun report => report.ending = .ok e → a.Account t messages report.run)
    (fun _ _ _ hr hstep => hr.step hstep)
    (fun _ _ hr hclose hok =>
      have ⟨_, htakes⟩ := hclose.takes hr.callsUsed_le hok
      hr.takes htakes)
    (fun _ hr _ => hr.toAccount) _ (.start a t messages)

end Agent

end Colloquy
