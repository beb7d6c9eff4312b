import Colloquy.Proofs.LoopGuard
import Colloquy.Proofs.Turn.Thread

/-!
# When a turn stops

A turn goes on as long as responses ask for calls, the rounds are not used up, and
the last three of them do not have one signature (`Responder.Exhausts`). It stops
at the first response for which one of these is not so: with an answer if the
response asks for nothing, and cut short otherwise (`Responder.Stops`). There is no
other way but a failure of the provider.

A response is heard for each round, and at most one request is made for nothing in
a whole turn, since a turn that gives up its form has none to give up again. That
bounds the requests of a turn, with one more for the rest of an answer.
-/

namespace Colloquy

open Provider (Completion Exchange Outcome)
open Tool (Batch Record Registry)
open Turn (responses)

/-- **There are tools on offer.** -/
def Question.Offers (q : Question) : Prop :=
  ∃ registry, q.tools = some registry ∧ registry.tools ≠ []

/-- The records of batches, in order. -/
def Tool.recordsOf (batches : List Batch) : List Record :=
  batches.flatMap Batch.records

/-- **The text that tells of a record.** -/
structure Tool.Record.Tells (record : Record) (text : String) : Prop where
  /-- It is what the provider is sent. -/
  sent : record.payload = .toolResult record.toolName record.callId text
    ∨ record.payload = .callOutput record.callId text
  /-- It is what the tool has answered: a string, or the JSON of anything else. -/
  answered : record.result.content = .str text
    ∨ (∀ s, record.result.content ≠ .str s) ∧ text = record.result.content.compact

namespace Responder

variable (b : Responder) (q : Question)

/-- How many rounds there may be: one at least. -/
def mostRounds : Nat := max b.maxRounds 1

/-- **Rounds are exhausted**: there may be no more of them, or the last three have
one signature. -/
def Exhausts (batches : List Batch) : Prop :=
  batches.length = b.mostRounds
    ∨ ∃ s, [s, s, s] <:+ batches.map fun batch => LoopGuard.signature batch.records

/-- **A response answers**, and its rest is asked for if it was cut off. -/
inductive Answers (t : Turn) (c : Completion) : Turn.Report → Prop
  /-- It is the whole answer. -/
  | complete (finished : c.unfinished? = none) :
      Answers t c (t.conclude c.content c.responseId c)
  /-- There is a rest. -/
  | continued {id : String} {rest : Completion} (unfinished : c.unfinished? = some id)
      (reply : (b.provider.reply t.exchanges.length (b.continuationRequest q t id)).outcome
        = .ok rest) :
      Answers t c ((t.heard (b.continuationRequest q t id) rest).conclude
        (c.content ++ rest.content) (rest.responseId.or (some id)) rest)
  /-- The request for the rest fails. -/
  | brokenOff {id : String} {f : Provider.Failure} (unfinished : c.unfinished? = some id)
      (reply : (b.provider.reply t.exchanges.length (b.continuationRequest q t id)).outcome
        = .error f) :
      Answers t c ((t.refused (b.continuationRequest q t id) f).fails f)

/-- **A turn tells what it has come to** in place of an answer: which tools were
called last, and how the last output begins. -/
inductive CutsShort (t : Turn) (c : Completion) : Turn.Report → Prop
  /-- There is a last output. -/
  | intro {record : Record} {names : List String} {recent output quoted : String}
      (last : (Tool.recordsOf t.batches).getLast? = some record)
      (called : names = (Tool.recordsOf t.batches).map Record.toolName)
      (tools : recent = ", ".intercalate (names.drop (names.length - 4)))
      (tells : record.Tells output) (quotes : quoted = Text.firstChars 400 output) :
      CutsShort t c
        ⟨.ok {
            payload := Answer.ownText t.schema.isSome
              ("I executed tool calls but hit an internal tool-loop safeguard before finalizing. "
                ++ s!"Recent tools: {recent}. Last tool output: {quoted}")
            responseId := c.responseId
            usage := t.usage }, t⟩

/-- **A turn has come through its rounds**, one after the other, and none of them
but the last was one at which to stop. -/
structure ComesThrough (t : Turn) : Prop where
  /-- Each batch is what the calls of its response came to. -/
  follows : b.Follows q t.exchanges t.batches
  /-- The rounds before the last one were not exhausted. -/
  goesOn : ∀ earlier, earlier <+: t.batches → earlier ≠ t.batches → ¬ b.Exhausts earlier
  /-- Without tools there are none. -/
  idle : ¬ q.Offers → t.batches = []

/-- **The ways in which a turn stops.** -/
inductive Stops : Turn.Report → Prop
  /-- The provider fails. -/
  | failed {t : Turn} {e : Exchange} {f : Provider.Failure} (through : b.ComesThrough q t)
      (goesOn : ¬ b.Exhausts t.batches)
      (heard : (responses t.exchanges).length = t.batches.length)
      (last : t.exchanges.getLast? = some e) (failed : e.outcome = some (.error f)) :
      Stops (t.fails f)
  /-- The response after the rounds asks for nothing, or there is nothing to ask
  for. -/
  | answered {t : Turn} {e : Exchange} {earlier : List Completion} {c : Completion}
      {report : Turn.Report} (through : b.ComesThrough q t) (goesOn : ¬ b.Exhausts t.batches)
      (heard : responses t.exchanges = earlier ++ [c]) (rounds : earlier.length = t.batches.length)
      (last : t.exchanges.getLast? = some e) (said : e.completion? = some c)
      (answers : q.Offers → c.hasToolCalls = false) (answer : b.Answers q t c report) :
      Stops report
  /-- The last response asks for calls, and they exhaust the rounds. -/
  | cutShort {t : Turn} {e : Exchange} {earlier : List Completion} {c : Completion}
      {report : Turn.Report} (through : b.ComesThrough q t) (exhausts : b.Exhausts t.batches)
      (heard : responses t.exchanges = earlier ++ [c])
      (rounds : earlier.length + 1 = t.batches.length)
      (last : t.exchanges.getLast? = some e) (said : e.completion? = some c)
      (asks : c.hasToolCalls = true) (cuts : CutsShort t c report) :
      Stops report

/-- **A turn stands at the beginning of a round.** -/
structure Stands (t : Turn) : Prop extends b.OnThread q t where
  /-- The guard has seen the rounds. -/
  guard : t.guard = .after (t.batches.map Batch.records)
  /-- One request was made for each of them, and one for a form that was given up. -/
  asked : t.exchanges.length + (if t.schema.isSome then 1 else 0) ≤ t.batches.length + 1
  /-- The rounds are not exhausted. -/
  goesOn : ∀ earlier, earlier <+: t.batches → ¬ b.Exhausts earlier
  /-- Without tools there are none. -/
  idle : ¬ q.Offers → t.batches = []

variable {b q} {t t' : Turn} {c : Completion} {f : Provider.Failure} {outcome : Outcome}
variable {registry : Registry}

/-! ## What is on offer -/

theorem offers_of_offered (h : q.offered = some registry) : q.Offers := by
  obtain ⟨htools, hfull⟩ := Option.filter_eq_some_iff.mp h
  refine ⟨registry, htools, fun hnil => ?_⟩
  simp [Registry.isEmpty, hnil] at hfull

theorem not_offers_of_offered (h : q.offered = none) : ¬ q.Offers := by
  rintro ⟨registry, htools, hfull⟩
  have hempty := Option.filter_eq_none_iff.mp h registry htools
  simp [Registry.isEmpty, hfull] at hempty

/-! ## Asking for a response -/

theorem Completes.guard_eq (ht : b.Completes q t t' outcome) : t'.guard = t.guard := by
  cases ht <;> rfl

/-- **A failure is the last exchange**, and no response. -/
theorem Completes.exchanges_of_error (ht : b.Completes q t t' (.error f)) :
    (∃ e, t'.exchanges.getLast? = some e ∧ e.outcome = some (.error f))
      ∧ responses t'.exchanges = responses t.exchanges := by
  cases ht with
  | refused reply final =>
    exact ⟨⟨_, List.getLast?_concat, rfl⟩, (responses_concat _ _).trans (List.append_nil _)⟩
  | refusedFormless reply rejects again =>
    refine ⟨⟨_, List.getLast?_concat, rfl⟩, (responses_concat _ _).trans ?_⟩
    exact (List.append_nil _).trans ((responses_concat _ _).trans (List.append_nil _))

/-- **Asking for a response takes one request**, and another one only for a form
that is given up. -/
theorem Completes.asked_le (ht : b.Completes q t t' outcome) :
    t'.exchanges.length + (if t'.schema.isSome then 1 else 0)
      ≤ t.exchanges.length + (if t.schema.isSome then 1 else 0) + 1 := by
  -- a form is given up only where there is one, and counts no longer after that
  have hgivenUp {f : Provider.Failure} (rejects : (t.schema.isSome && f.rejectsSchema) = true) :
      t.schema.isSome = true := (Bool.and_eq_true _ _ ▸ rejects).1
  cases ht with
  | heard reply =>
    show (t.exchanges ++ [_]).length + (if t.schema.isSome then 1 else 0) ≤ _
    rw [List.length_append, List.length_singleton]
    omega
  | refused reply final =>
    show (t.exchanges ++ [_]).length + (if t.schema.isSome then 1 else 0) ≤ _
    rw [List.length_append, List.length_singleton]
    omega
  | heardFormless reply rejects again =>
    show (t.exchanges ++ [_] ++ [_]).length + 0 ≤ _
    rw [if_pos (hgivenUp rejects), List.length_append, List.length_append]
    exact Nat.le_refl _
  | refusedFormless reply rejects again =>
    show (t.exchanges ++ [_] ++ [_]).length + 0 ≤ _
    rw [if_pos (hgivenUp rejects), List.length_append, List.length_append]
    exact Nat.le_refl _

/-! ## Rounds -/

theorem not_exhausts_nil (b : Responder) : ¬ b.Exhausts [] := by
  rintro (hlength | ⟨s, hs⟩)
  · exact absurd hlength (Nat.ne_of_lt (Nat.lt_of_lt_of_le Nat.one_pos (Nat.le_max_right _ _)))
  · exact absurd (List.suffix_nil.mp hs) (by simp)

theorem Stands.start (b : Responder) (q : Question) : b.Stands q (b.start q) where
  toOnThread := .start b q
  guard := rfl
  asked := by
    show 0 + _ ≤ 0 + 1
    split <;> omega
  goesOn earlier h := List.prefix_nil.mp h ▸ not_exhausts_nil b
  idle _ := rfl

/-- The guard has seen one round more. -/
theorem Stands.guard_executed (h : b.Stands q t) (ht : b.Completes q t t' outcome)
    (batch : Batch) :
    (t'.executed batch).guard = .after ((t.batches ++ [batch]).map Batch.records) := by
  rw [List.map_append, List.map_singleton, LoopGuard.after_concat, ← h.guard, ← ht.guard_eq]
  rfl

/-- **The guard trips exactly if three rounds in a row have one signature.** -/
theorem Stands.tripped_iff (h : b.Stands q t) (ht : b.Completes q t t' outcome) (batch : Batch) :
    (t'.executed batch).guard.tripped = true
      ↔ ∃ s, [s, s, s] <:+ (t.batches ++ [batch]).map fun batch =>
          LoopGuard.signature batch.records := by
  rw [h.guard_executed ht, LoopGuard.tripped_after_iff, List.map_map]
  rfl

@[simp] theorem guard_carryOn (b : Responder) (t : Turn) (c : Completion)
    (outputs : List Provider.Item) : (b.carryOn t c outputs).guard = t.guard := by
  unfold Responder.carryOn
  split <;> rfl

/-- **A round that exhausts nothing leads to the beginning of another one.** -/
theorem Stands.afterRound (h : b.Stands q t) (offered : q.offered = some registry)
    (ht : b.Completes q t t' (.ok c)) (asks : c.hasToolCalls = true)
    (hgoesOn : ¬ b.Exhausts (t.batches ++ [b.execute q registry t' c])) :
    b.Stands q (b.afterRound q registry t' c) := by
  have hguard : (t'.executed (b.execute q registry t' c)).guard.tripped = false := by
    rw [Bool.eq_false_iff]
    exact fun htripped => hgoesOn (.inr ((h.tripped_iff ht _).mp htripped))
  have hbatches : (b.afterRound q registry t' c).batches
      = t.batches ++ [b.execute q registry t' c] :=
    (batches_carryOn b _ c _).trans (congrArg (· ++ [_]) ht.batches_eq)
  exact {
    toOnThread := h.toOnThread.roundsTo (.calls offered ht asks hguard)
    guard := by
      rw [hbatches, ← h.guard_executed ht]
      exact guard_carryOn b _ c _
    asked := by
      have hasked := ht.asked_le.trans (Nat.succ_le_succ h.asked)
      rw [hbatches, List.length_append]
      unfold Responder.afterRound
      rw [exchanges_carryOn, schema_carryOn]
      exact hasked
    goesOn := by
      intro earlier hbefore
      rw [hbatches, List.prefix_concat_iff] at hbefore
      rcases hbefore with rfl | hbefore
      · exact hgoesOn
      · exact h.goesOn earlier hbefore
    idle := fun hidle => absurd (offers_of_offered offered) hidle }

/-- A turn that has asked for a response has come through its rounds. -/
theorem Stands.comesThrough (h : b.Stands q t) (ht : b.Completes q t t' outcome) :
    b.ComesThrough q t' where
  follows := h.toOnThread.completes ht
  goesOn earlier hbefore _ := h.goesOn earlier (ht.batches_eq ▸ hbefore)
  idle hidle := ht.batches_eq.trans (h.idle hidle)

/-- So has one that has executed what the response asks for. -/
theorem Stands.comesThrough_executed (h : b.Stands q t) (offered : q.offered = some registry)
    (ht : b.Completes q t t' (.ok c)) (asks : c.hasToolCalls = true) :
    b.ComesThrough q (t'.executed (b.execute q registry t' c)) where
  follows := h.toOnThread.executed ht offered asks
  goesOn earlier hbefore hne := by
    have hbefore' : earlier <+: t'.batches ++ [b.execute q registry t' c] := hbefore
    rw [List.prefix_concat_iff] at hbefore'
    rcases hbefore' with heq | hbefore'
    · exact absurd heq hne
    · exact h.goesOn earlier (ht.batches_eq ▸ hbefore')
  idle hidle := absurd (offers_of_offered offered) hidle

/-- There are few requests that no round belongs to: the one just made, and one with
the form that was given up. -/
theorem Stands.length_exchanges_le (h : b.Stands q t) (ht : b.Completes q t t' outcome) :
    t'.exchanges.length ≤ t.batches.length + 2 := by
  have hasked := ht.asked_le
  have hstands := h.asked
  omega

/-! ## The end of a turn -/

theorem answers_finish (b : Responder) (q : Question) (t : Turn) (c : Completion) :
    b.Answers q t c (b.finish q t c) := by
  rcases finish_cases b q t c with ⟨hid, heq⟩ | ⟨id, hid, ⟨rest, hreply, heq⟩ | ⟨f, hreply, heq⟩⟩
  · exact heq ▸ .complete hid
  · exact heq ▸ .continued hid hreply
  · exact heq ▸ .brokenOff hid hreply

/-- An answer takes one request more at most. -/
theorem Answers.length_exchanges_le {report : Turn.Report} (h : b.Answers q t c report) :
    report.turn.exchanges.length ≤ t.exchanges.length + 1 := by
  cases h with
  | complete finished => exact Nat.le_succ _
  | continued unfinished reply => exact (List.length_append ..).le
  | brokenOff unfinished reply => exact (List.length_append ..).le

/-- **What a guard takes for the output of a record tells of it.** -/
theorem tells_of_mem_execute {record : Record}
    (h : record ∈ (b.execute q registry t c).records) :
    record.Tells (LoopGuard.output record) := by
  have hpayload := Tool.payload_of_mem_execute h
  have houtput : LoopGuard.output record = Tool.resultText record.result.content := by
    unfold LoopGuard.output
    rw [hpayload]
    cases b.provider.mode <;> rfl
  rw [houtput]
  refine ⟨?_, ?_⟩
  · rw [hpayload]
    cases b.provider.mode with
    | chatCompletions => exact .inl rfl
    | responses => exact .inr rfl
  · cases record.result.content with
    | str s => exact .inl rfl
    | _ => exact .inr ⟨nofun, rfl⟩

/-- A response that asks for calls leaves a last record. -/
theorem exists_getLast?_recordsOf (b : Responder) (q : Question) (registry : Registry) (t : Turn)
    (batches : List Batch) (asks : c.hasToolCalls = true) :
    ∃ record ∈ (b.execute q registry t c).records,
      (Tool.recordsOf (batches ++ [b.execute q registry t c])).getLast? = some record := by
  have hlength : c.toolCalls.length = (b.execute q registry t c).records.length :=
    (Tool.forall₂_answers_execute _ _ _ _ _ _).length_eq
  have hne : (b.execute q registry t c).records ≠ [] := by
    rw [← List.length_pos_iff, ← hlength, List.length_pos_iff]
    simpa [Completion.hasToolCalls] using asks
  refine ⟨_, List.getLast_mem hne, ?_⟩
  rw [Tool.recordsOf, List.flatMap_append, List.flatMap_singleton,
    List.getLast?_append_of_ne_nil _ hne, List.getLast?_eq_some_getLast hne]

/-- **A turn that is cut short tells what it has come to.** -/
theorem Stands.cutsShort (h : b.Stands q t) (ht : b.Completes q t t' (.ok c))
    (asks : c.hasToolCalls = true) :
    CutsShort (t'.executed (b.execute q registry t' c)) c
      ((t'.executed (b.execute q registry t' c)).cutShort c) := by
  have hbatches : (t'.executed (b.execute q registry t' c)).batches
      = t.batches ++ [b.execute q registry t' c] := congrArg (· ++ [_]) ht.batches_eq
  obtain ⟨record, hmem, hlast⟩ := exists_getLast?_recordsOf b q registry t' t.batches asks
  have hrounds (batches : List Batch) :
      (batches.map Batch.records).flatten = Tool.recordsOf batches := List.flatMap_def.symm
  have htext := LoopGuard.fallbackText_after ((congrArg _ (hrounds _)).trans hlast)
  rw [hrounds, ← h.guard_executed ht] at htext
  unfold Turn.cutShort LoopGuard.fallback
  rw [htext]
  exact .intro (hbatches ▸ hlast) (hbatches ▸ rfl) rfl (tells_of_mem_execute hmem) rfl

/-- **What becomes of a turn in a round**: it stops, or stands at the beginning of
another one. -/
theorem Stands.becomes {n : Nat} {report : Turn.Report} (h : b.Stands q t)
    (hn : t.batches.length + n + 1 = b.mostRounds) (hreport : b.Becomes q t n report) :
    (b.Stops q report ∧ report.turn.exchanges.length ≤ b.mostRounds + 2)
      ∨ ∃ m t', n = m + 1 ∧ b.Stands q t' ∧ t'.batches.length + m + 1 = b.mostRounds
        ∧ report = b.rounds q m t' := by
  have hgoesOn := h.goesOn t.batches List.prefix_rfl
  cases hreport with
  | @failed n t' f completes =>
    obtain ⟨⟨e, hlast, he⟩, hresponses⟩ := completes.exchanges_of_error
    have hasked := h.length_exchanges_le completes
    refine .inl ⟨.failed (h.comesThrough completes) (completes.batches_eq ▸ hgoesOn) ?_ hlast he,
      ?_⟩
    · rw [hresponses, completes.batches_eq, h.balanced]
    · show t'.exchanges.length ≤ _
      omega
  | @answered n t' c completes answers =>
    obtain ⟨⟨e, hlast, he⟩, hresponses⟩ := completes.exchanges_of_ok
    have hanswers := answers_finish b q t' c
    have hlength := hanswers.length_exchanges_le
    have hasked := h.length_exchanges_le completes
    refine .inl ⟨.answered (h.comesThrough completes) (completes.batches_eq ▸ hgoesOn) hresponses
      (h.balanced.trans (congrArg _ completes.batches_eq.symm)) hlast he (fun hoffers => ?_)
      hanswers, ?_⟩
    · exact answers.resolve_left fun hnone => not_offers_of_offered hnone hoffers
    · omega
  | @cutShort n registry t' c offered completes asks reason =>
    obtain ⟨⟨e, hlast, he⟩, hresponses⟩ := completes.exchanges_of_ok
    have hasked := h.length_exchanges_le completes
    have hbatches : (t'.executed (b.execute q registry t' c)).batches
        = t.batches ++ [b.execute q registry t' c] := congrArg (· ++ [_]) completes.batches_eq
    -- what the guard and the number of rounds left say, said of the batches
    have hexhausts : b.Exhausts (t.batches ++ [b.execute q registry t' c]) := by
      rcases reason with htripped | rfl
      · exact .inr ((h.tripped_iff completes _).mp htripped)
      · refine .inl ?_
        rw [List.length_append]
        exact hn
    refine .inl ⟨.cutShort (h.comesThrough_executed offered completes asks)
      (hbatches ▸ hexhausts) hresponses ?_ hlast he asks (h.cutsShort completes asks), ?_⟩
    · rw [hbatches, List.length_append, h.balanced]
      rfl
    · show t'.exchanges.length ≤ _
      omega
  | @goesOn n registry t' c offered completes asks guard =>
    have hnext : ¬ b.Exhausts (t.batches ++ [b.execute q registry t' c]) := by
      rintro (hlength | hrepeats)
      · rw [List.length_append, List.length_singleton] at hlength
        omega
      · rw [(h.tripped_iff completes _).mpr hrepeats] at guard
        cases guard
    refine .inr ⟨n, _, rfl, h.afterRound offered completes asks hnext, ?_, rfl⟩
    show (b.carryOn _ c _).batches.length + n + 1 = _
    rw [batches_carryOn]
    show (t'.batches ++ [_]).length + n + 1 = _
    rw [completes.batches_eq, List.length_append, List.length_singleton]
    omega

/-- **Rounds come to a stop**, and there are not too many of them. -/
theorem Stands.rounds (n : Nat) {t : Turn} (h : b.Stands q t)
    (hn : t.batches.length + n + 1 = b.mostRounds) :
    b.Stops q (b.rounds q n t) ∧ (b.rounds q n t).turn.exchanges.length ≤ b.mostRounds + 2 := by
  induction n generalizing t with
  | zero =>
    rcases h.becomes hn (becomes_rounds b q 0 t) with hstops | ⟨m, t', hm, -⟩
    · exact hstops
    · exact absurd hm (Nat.succ_ne_zero m).symm
  | succ n ih =>
    rcases h.becomes hn (becomes_rounds b q (n + 1) t) with hstops | ⟨m, t', hm, h', hn', heq⟩
    · exact hstops
    · cases Nat.succ.inj hm
      rw [heq]
      exact ih h' hn'

/-- **Without tools a turn stops at its first response**, whatever it asks for. -/
theorem Stops.of_not_offers {report : Turn.Report} (h : b.Stops q report)
    (hidle : ¬ q.Offers) :
    ∃ t : Turn, t.batches = []
      ∧ ((responses t.exchanges = [] ∧ ∃ f, report = t.fails f)
        ∨ ∃ c, responses t.exchanges = [c] ∧ b.Answers q t c report) := by
  cases h with
  | @failed t e f through goesOn heard last failed =>
    have hbatches := through.idle hidle
    rw [hbatches] at heard
    exact ⟨t, hbatches, .inl ⟨List.eq_nil_of_length_eq_zero heard, f, rfl⟩⟩
  | @answered t e earlier c report through goesOn heard rounds last said answers answer =>
    have hbatches := through.idle hidle
    rw [hbatches] at rounds
    rw [List.eq_nil_of_length_eq_zero rounds] at heard
    exact ⟨t, hbatches, .inr ⟨c, heard, answer⟩⟩
  | cutShort through exhausts heard rounds last said asks cuts =>
    exact absurd (through.idle hidle ▸ exhausts) (not_exhausts_nil b)

/-- **When a turn stops.** It stops at the first response that asks for nothing,
with an answer, or whose calls exhaust the rounds, cut short after they were
executed, unless the provider fails before. So it makes at most two requests more
than there may be rounds. Without tools on offer the first response is the answer,
whatever it asks for. -/
theorem stops_answer (b : Responder) (q : Question) :
    let report := b.answer q
    b.Stops q report
      ∧ report.turn.exchanges.length ≤ b.mostRounds + 2
      ∧ (¬ q.Offers → ∃ t : Turn, t.batches = []
        ∧ ((responses t.exchanges = [] ∧ ∃ f, report = t.fails f)
          ∨ ∃ c, responses t.exchanges = [c] ∧ b.Answers q t c report)) := by
  intro report
  have hrounds : 0 + (b.maxRounds - 1) + 1 = b.mostRounds := by
    unfold mostRounds
    omega
  obtain ⟨hstops, hlength⟩ := (Stands.start b q).rounds (b.maxRounds - 1) hrounds
  exact ⟨hstops, hlength, hstops.of_not_offers⟩

end Responder

end Colloquy
