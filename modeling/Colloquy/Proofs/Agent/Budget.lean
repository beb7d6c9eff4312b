import Colloquy.Proofs.Agent.Course
import Colloquy.Proofs.Agent.Ledger
import Colloquy.Proofs.Answer.Attempts

/-!
# How long a run can be

A run makes a limited number of requests. It can end before the limit in
several ways, and the limit only shows when none of them comes to pass: every
request is answered, no answer asks for too many calls, none is taken or given
up on, and all tools are done in time. Such a run is **unbroken**
(`Agent.Unbroken`). Every step keeps a run unbroken, and every way to the end
breaks it, so that a run which reaches the limit is one that is unbroken to
the last (`Agent.outOfSteps_iff_unbroken`) – with the calls of its last
response executed, or its last candidate sent back.

Candidates for a structured answer are limited on their own. A candidate is
followed by another one only if it was sent back, and the validator sends back
fewer candidates than it looks at.
-/

namespace Colloquy

open Provider (Completion Exchange Request)
open Tool (Batch)

/-- How many of several responses ask for no calls. -/
def Agent.answerCount (cs : List Completion) : Nat :=
  (cs.filter fun c => !c.hasToolCalls).length

namespace Answer.Validator

/-- **A candidate is sent back only if there is another attempt.** -/
theorem lt_maxAttempts_of_retry {w : Validator} {candidate : String} {rejection : Rejection}
    {n : Nat} (h : (w.receive candidate).2 = .retry rejection n) :
    w.attempts + 1 < w.maxAttempts := by
  unfold receive at h
  cases hcheck : check candidate with
  | ok answer => simp [hcheck] at h
  | error rejection' =>
    simp only [hcheck] at h
    split at h
    · assumption
    · cases h

theorem attempts_foldl (w : Validator) (cs : List Completion) :
    (cs.foldl (fun w c => (w.receive c.content).1) w).attempts = w.attempts + cs.length := by
  induction cs generalizing w with
  | nil => rfl
  | cons c cs ih =>
    rw [List.foldl_cons, ih, attempts_receive, List.length_cons]
    omega

theorem maxAttempts_foldl (w : Validator) (cs : List Completion) :
    (cs.foldl (fun w c => (w.receive c.content).1) w).maxAttempts = w.maxAttempts := by
  induction cs generalizing w with
  | nil => rfl
  | cons c cs ih => rw [List.foldl_cons, ih, maxAttempts_receive]

end Answer.Validator

namespace Agent

variable (a : Agent) (t : Task)

/-- **A response lets a run go on** after others: there are not too many
calls with its own, or it is a candidate that is sent back. -/
def GoesOn (earlier : List Completion) (c : Completion) : Prop :=
  if c.hasToolCalls then callCount (earlier ++ [c]) ≤ a.limits.maxToolCalls
  else ∃ rejection attempts, a.verdictAfter t earlier c = some (.retry rejection attempts)

/-- **The batches that responses lead to**: one for each response that asks
for calls. -/
def executedFor (cs : List Completion) : List Batch :=
  (afterEach (fun earlier c =>
    if c.hasToolCalls then [a.batchAfter t earlier c] else []) cs).flatten

/-- **A run is unbroken**: every request was answered, no answer ended the
run, and all calls were executed. -/
structure Unbroken (r : Run) : Prop where
  /-- Every request was answered with a completion. -/
  answered : r.exchanges.map Exchange.completion? = r.completions.map some
  /-- Each of them lets the run go on. -/
  goesOn : ∀ earlier c, earlier ++ [c] <+: r.completions → a.GoesOn t earlier c
  /-- All calls were executed. -/
  executed : r.batches = a.executedFor t r.completions

/-- **A response is seen to**: the calls it asks for are executed, or it is
sent back, and the conversation says so. -/
inductive SeenTo (messages : List Message) (earlier : List Completion) (c : Completion) (r : Run) :
    Prop
  /-- The calls were executed, and one record answers each of them. -/
  | calls (asks : c.hasToolCalls = true)
      (executed : r.batches = a.executedFor t earlier ++ [a.batchAfter t earlier c])
      (answers : List.Forall₂ (Tool.Record.Answers a.provider.mode) c.toolCalls
        (a.batchAfter t earlier c).records)
      (said : r.messages
        = a.conversation t messages earlier ++ a.callMessages c (a.batchAfter t earlier c))
  /-- The candidate was sent back. -/
  | rejected {rejection : Answer.Rejection} {attempts : Nat} (asks : c.hasToolCalls = false)
      (verdict : a.verdictAfter t earlier c = some (.retry rejection attempts))
      (said : r.messages
        = a.conversation t messages earlier ++ [.assistant c.content, .user rejection.prompt])

variable {a t} {d : Option Nat} {messages : List Message} {r r' : Run} {c : Completion}

/-! ## Requests -/

theorem length_stages_le (n : Nat) (r : Run) : (a.stages t d n r).length ≤ n := by
  induction n generalizing r with
  | zero => exact Nat.le_refl 0
  | succ n ih =>
    rcases stepsTo_or_closes a t d r with ⟨c, r', h⟩ | ⟨report, h⟩
    · rw [h.stages_eq]
      exact Nat.succ_le_succ (ih r')
    · rw [h.stages_eq]
      exact Nat.succ_le_succ (Nat.zero_le n)

theorem Closes.ending_ne {report : Run.Report} (h : a.Closes t d r report) :
    report.ending ≠ .ok .outOfSteps := by
  cases h <;> simp

/-- **At the step limit all steps were made.** -/
theorem length_stages_of_outOfSteps {n : Nat} {r : Run}
    (h : (a.steps t d n r).ending = .ok .outOfSteps) : (a.stages t d n r).length = n := by
  induction n generalizing r with
  | zero => rfl
  | succ n ih =>
    rcases stepsTo_or_closes a t d r with ⟨c, r', hstep⟩ | ⟨report, hclose⟩
    · rw [hstep.steps_eq] at h
      rw [hstep.stages_eq, List.length_cons, ih h]
    · rw [hclose.steps_eq] at h
      exact absurd h hclose.ending_ne

theorem length_requests_runUntil (messages : List Message) :
    (a.runUntil d t messages).run.requests.length = (a.course t d messages).length := by
  rw [requests_runUntil, List.length_map]

/-! ## Unbroken runs -/

theorem executedFor_concat (a : Agent) (t : Task) (cs : List Completion) (c : Completion) :
    a.executedFor t (cs ++ [c])
      = a.executedFor t cs ++ if c.hasToolCalls then [a.batchAfter t cs c] else [] := by
  rw [executedFor, afterEach_concat, List.flatten_concat]
  rfl

/-- What the validator of a run says is what it says after the responses. -/
theorem Ledger.verdictAfter_eq (hr : a.Ledger t messages r) {w : Answer.Validator}
    (hvalidator : r.validator = some w) (c : Completion) :
    a.verdictAfter t r.completions c = some (w.receive c.content).2 := by
  rw [verdictAfter, ← hr.validator, hvalidator, Option.map_some]

/-- A step of a run with a right ledger lets it go on. -/
theorem StepsTo.goesOn (hr : a.Ledger t messages r) (h : a.StepsTo t d r c r') :
    a.GoesOn t r.completions c := by
  unfold GoesOn
  cases h with
  | calls hears asks within intime =>
    rw [if_pos asks, ← plusCalls_callCount, ← hr.callsUsed]
    exact within
  | @rejected w rejection attempts hears asks validator verdict =>
    rw [if_neg (by simp [asks]), hr.verdictAfter_eq validator, verdict]
    exact ⟨rejection, attempts, rfl⟩

/-- A step executes the batch of its response, if it asks for calls. -/
theorem StepsTo.batches_eq (hr : a.Ledger t messages r) (h : a.StepsTo t d r c r') :
    r'.batches
      = r.batches ++ if c.hasToolCalls then [a.batchAfter t r.completions c] else [] := by
  cases h with
  | calls hears asks within intime =>
    rw [if_pos asks, ← hr.execute_eq]
    rfl
  | rejected hears asks validator verdict =>
    rw [if_neg (by simp [asks]), List.append_nil]
    rfl

/-- **Steps keep a run unbroken.** -/
theorem Unbroken.step (h : a.Unbroken t r) (hr : a.Ledger t messages r)
    (hstep : a.StepsTo t d r c r') : a.Unbroken t r' where
  answered := (hr.step hstep).answered
  goesOn earlier c' hbefore := by
    rw [hstep.completions_eq, List.prefix_concat_iff] at hbefore
    rcases hbefore with heq | hbefore
    · obtain ⟨rfl, hc⟩ := List.append_inj' heq rfl
      cases hc
      exact hstep.goesOn hr
    · exact h.goesOn earlier c' hbefore
  executed := by
    rw [hstep.batches_eq hr, hstep.completions_eq, executedFor_concat, h.executed]

/-- A candidate that is not sent back does not let a run go on. -/
theorem not_goesOn_of_verdict {cs : List Completion} (asks : c.hasToolCalls = false)
    (h : ∀ rejection attempts, a.verdictAfter t cs c ≠ some (.retry rejection attempts)) :
    ¬ a.GoesOn t cs c := by
  unfold GoesOn
  rw [if_neg (by simp [asks])]
  rintro ⟨rejection, attempts, hverdict⟩
  exact h rejection attempts hverdict

/-- A run that was not answered is broken. -/
theorem not_unbroken_of_unanswered {exchanges : List Exchange} {e : Exchange}
    (hexchanges : r.exchanges = exchanges ++ [e]) (he : e.completion? = none) :
    ¬ a.Unbroken t r := by
  intro h
  have hmem : none ∈ r.exchanges.map Exchange.completion? := by
    rw [hexchanges, List.map_append, List.map_singleton, he]
    exact List.mem_append.mpr (.inr List.mem_cons_self)
  rw [h.answered] at hmem
  obtain ⟨c, -, hc⟩ := List.mem_map.mp hmem
  exact absurd hc (by simp)

/-- A run is broken by a response that does not let it go on. -/
theorem not_unbroken_of_not_goesOn (hcompletions : r'.completions = r.completions ++ [c])
    (h : ¬ a.GoesOn t r.completions c) : ¬ a.Unbroken t r' := fun hunbroken =>
  h (hunbroken.goesOn r.completions c (hcompletions ▸ List.prefix_rfl))

/-- **Every way to the end breaks a run.** -/
theorem Closes.not_unbroken (hr : a.Ledger t messages r) (hunbroken : a.Unbroken t r)
    {report : Run.Report} (h : a.Closes t d r report) : ¬ a.Unbroken t report.run := by
  cases h with
  | late missed => exact not_unbroken_of_unanswered rfl rfl
  | failed reply intime => exact not_unbroken_of_unanswered rfl rfl
  | @tooMany c hears asks beyond =>
    refine not_unbroken_of_not_goesOn (completions_of_exchanges rfl) ?_
    unfold GoesOn
    rw [if_pos asks, ← plusCalls_callCount, ← hr.callsUsed]
    exact Nat.not_le.mpr beyond
  | @abandoned c time hears asks within missed =>
    -- the calls let the run go on, but they were not executed
    intro h
    have hexecuted := h.executed
    rw [completions_of_exchanges (c := c) rfl, executedFor_concat, if_pos asks,
      ← hunbroken.executed] at hexecuted
    have hlength := congrArg List.length hexecuted
    rw [List.length_append] at hlength
    exact absurd hlength (Nat.ne_of_lt (Nat.lt_succ_self r.batches.length))
  | @answered c hears asks validator =>
    refine not_unbroken_of_not_goesOn (completions_of_exchanges rfl)
      (not_goesOn_of_verdict asks fun rejection attempts => ?_)
    rw [verdictAfter, ← hr.validator, validator]
    simp
  | @accepted c w answer attempts hears asks validator verdict =>
    refine not_unbroken_of_not_goesOn (completions_of_exchanges rfl)
      (not_goesOn_of_verdict asks fun rejection attempts => ?_)
    rw [hr.verdictAfter_eq validator, verdict]
    simp
  | @gaveUp c w rejection attempts history hears asks validator verdict =>
    refine not_unbroken_of_not_goesOn (completions_of_exchanges rfl)
      (not_goesOn_of_verdict asks fun rejection attempts => ?_)
    rw [hr.verdictAfter_eq validator, verdict]
    simp

/-- A run at its beginning is unbroken. -/
theorem Unbroken.start (a : Agent) (t : Task) (messages : List Message) :
    a.Unbroken t (.start a t messages) where
  answered := rfl
  goesOn _ _ h := absurd (List.prefix_nil.mp h) (by simp)
  executed := rfl

/-- **What holds of unbroken runs, and whenever one is broken,** holds at the
end of every run. -/
theorem runUntil_induction {Q : Run.Report → Prop}
    (hclose : ∀ r report, a.Ledger t messages r → a.Unbroken t r → a.Closes t d r report →
      Q report)
    (hout : ∀ r, a.Ledger t messages r → a.Unbroken t r → Q ⟨.ok .outOfSteps, r⟩) :
    Q (a.runUntil d t messages) :=
  steps_induction (P := fun r => a.Ledger t messages r ∧ a.Unbroken t r)
    (fun _ _ _ ⟨hr, h⟩ hstep => ⟨hr.step hstep, h.step hr hstep⟩)
    (fun r report ⟨hr, h⟩ => hclose r report hr h)
    (fun r ⟨hr, h⟩ => hout r hr h) _ ⟨.start a t messages, .start a t messages⟩

/-- An end executes nothing that is kept. -/
theorem Closes.batches_eq {report : Run.Report} (h : a.Closes t d r report) :
    report.run.batches = r.batches := by
  cases h <;> rfl

/-- **What a run executes** it executes for its responses, one after the other and
whole; for the last of them perhaps nothing. -/
theorem exists_batches_eq (a : Agent) (t : Task) (d : Option Nat) (messages : List Message) :
    ∃ cs, (a.runUntil d t messages).run.batches = a.executedFor t cs
      ∧ ((a.runUntil d t messages).run.completions = cs
        ∨ ∃ c, (a.runUntil d t messages).run.completions = cs ++ [c]) := by
  refine runUntil_induction (Q := fun report => ∃ cs, report.run.batches = a.executedFor t cs
    ∧ (report.run.completions = cs ∨ ∃ c, report.run.completions = cs ++ [c]))
    (fun r report _ hr hclose => ?_) (fun r _ hr => ⟨r.completions, hr.executed, .inl rfl⟩)
  exact ⟨r.completions, hclose.batches_eq.trans hr.executed, hclose.completions_eq⟩

/-- **A run reaches the step limit exactly if it is unbroken to the last.** -/
theorem outOfSteps_iff_unbroken :
    (a.runUntil d t messages).ending = .ok .outOfSteps
      ↔ a.Unbroken t (a.runUntil d t messages).run :=
  runUntil_induction
    (Q := fun report => report.ending = .ok .outOfSteps ↔ a.Unbroken t report.run)
    (fun _ _ hr h hclose => iff_of_false hclose.ending_ne (hclose.not_unbroken hr h))
    (fun _ _ h => iff_of_true rfl h)

/-- **The last response of an unbroken run is seen to.** -/
theorem Unbroken.seenTo (h : a.Unbroken t r) (hr : a.Account t messages r)
    {earlier : List Completion} (hcompletions : r.completions = earlier ++ [c]) :
    a.SeenTo t messages earlier c r := by
  have hgoesOn := h.goesOn earlier c (hcompletions ▸ List.prefix_rfl)
  have hsaid := hr.messages
  rw [hcompletions, conversation_concat, segmentAfter] at hsaid
  have hexecuted := h.executed
  rw [hcompletions, executedFor_concat] at hexecuted
  unfold GoesOn at hgoesOn
  cases hasks : c.hasToolCalls with
  | true =>
    rw [if_pos hasks] at hgoesOn hexecuted
    rw [segment_calls hasks hgoesOn] at hsaid
    exact .calls hasks hexecuted (forall₂_answers_batchAfter a t earlier c) hsaid
  | false =>
    rw [if_neg (by simp [hasks])] at hgoesOn
    obtain ⟨rejection, attempts, hverdict⟩ := hgoesOn
    rw [hverdict, segment_rejected hasks] at hsaid
    exact .rejected hasks hverdict hsaid

/-! ## Candidates -/

theorem answerCount_concat (cs : List Completion) (c : Completion) :
    answerCount (cs ++ [c]) = answerCount cs + if c.hasToolCalls then 0 else 1 := by
  rw [answerCount, List.filter_append, List.length_append, List.filter_singleton]
  cases c.hasToolCalls <;> rfl

/-- **Candidates that were all sent back are fewer than the validator looks
at.** -/
theorem answerCount_lt {cs : List Completion}
    (h : ∀ earlier c, earlier ++ [c] <+: cs → a.GoesOn t earlier c) :
    answerCount cs < max a.maxAttempts 1 := by
  induction cs using List.reverseRecOn with
  | nil => exact Nat.lt_of_lt_of_le Nat.one_pos (Nat.le_max_right _ _)
  | append_singleton cs c ih =>
    have hcs := ih fun earlier c' hbefore => h earlier c' (hbefore.trans (List.prefix_append _ _))
    have hlast := h cs c List.prefix_rfl
    unfold GoesOn at hlast
    rw [answerCount_concat]
    cases hasks : c.hasToolCalls with
    | true => simpa using hcs
    | false =>
      rw [if_neg (by simp [hasks])] at hlast
      obtain ⟨rejection, attempts, hverdict⟩ := hlast
      obtain ⟨w, hw, hretry⟩ := Option.map_eq_some_iff.mp hverdict
      obtain ⟨schema, -, rfl⟩ := Option.map_eq_some_iff.mp hw
      have hlt := Answer.Validator.lt_maxAttempts_of_retry hretry
      rw [Answer.Validator.attempts_foldl, Answer.Validator.maxAttempts_foldl] at hlt
      simpa [answerCount, Answer.Validator.ofAttempts] using hlt

/-- **A run hears no more answers than its validator looks at**, and one at
least may be heard. -/
theorem answerCount_runUntil_le :
    answerCount (a.runUntil d t messages).run.completions ≤ max a.maxAttempts 1 := by
  refine runUntil_induction
    (Q := fun report => answerCount report.run.completions ≤ max a.maxAttempts 1)
    (fun r report _ h hclose => ?_) (fun r _ h => (answerCount_lt h.goesOn).le)
  have hlt := answerCount_lt h.goesOn
  rcases hclose.completions_eq with heq | ⟨c, heq⟩
  · rw [heq]
    exact hlt.le
  · rw [heq, answerCount_concat]
    split <;> omega

/-! ## The budget -/

/-- **The budget of a run.** A run makes at most as many requests as there may
be. It ends for want of steps exactly if it makes all of them and is unbroken to
the last; it then says so, and its last response was seen to. The answers it
hears, where it wants a structured one, are as many as its validator looks at. -/
theorem budget_run (a : Agent) (t : Task) (messages : List Message) :
    let report := a.run t messages
    report.run.requests.length ≤ a.limits.maxSteps
      ∧ (report.ending = .ok .outOfSteps
          ↔ report.run.requests.length = a.limits.maxSteps ∧ a.Unbroken t report.run)
      ∧ (report.ending = .ok .outOfSteps →
          report.payload = .ok (Answer.ownText t.responseSchema.isSome Run.outOfStepsText)
            ∧ ∃ earlier c, report.run.completions = earlier ++ [c]
                ∧ a.SeenTo t messages earlier c report.run)
      ∧ answerCount report.run.completions ≤ max 1 a.maxAttempts := by
  intro report
  have hlength : report.run.requests.length = (a.course t _ messages).length :=
    length_requests_runUntil messages
  have hout : report.ending = .ok .outOfSteps ↔ a.Unbroken t report.run := outOfSteps_iff_unbroken
  have hall (h : report.ending = .ok .outOfSteps) :
      report.run.requests.length = a.limits.maxSteps :=
    hlength.trans (length_stages_of_outOfSteps h)
  refine ⟨hlength ▸ length_stages_le _ _, ?_, fun h => ?_, ?_⟩
  · exact ⟨fun h => ⟨hall h, hout.mp h⟩, fun h => hout.mpr h.2⟩
  · have haccount : a.Account t messages report.run := account_runUntil h
    refine ⟨?_, ?_⟩
    · rw [Run.Report.payload, h, Run.structured, haccount.validator, validatorAfter,
        Option.isSome_map]
      rfl
    · -- there is a last response, since there is a step at least
      have hcompletions : report.run.completions.length = a.limits.maxSteps := by
        rw [← List.length_map some, ← haccount.answered, List.length_map, ← hall h,
          Run.requests, List.length_map]
      rcases List.eq_nil_or_concat report.run.completions with hnil | ⟨earlier, c, hc⟩
      · rw [hnil] at hcompletions
        exact absurd hcompletions a.limits.steps_pos.ne
      · rw [List.concat_eq_append] at hc
        exact ⟨earlier, c, hc, (hout.mp h).seenTo haccount hc⟩
  · rw [Nat.max_comm]
    exact answerCount_runUntil_le

/-- A run that may make two requests and looks something up each time. -/
theorem budget_run_lookingUp :
    let a : Agent := { Agent.lookingUp .chatCompletions [.lookUp none, .lookUp none] with
      limits := ⟨2, 12, 60, by decide, by decide, by decide⟩ }
    let report := a.run {} [.user "Where is it?"]
    report.ending = .ok .outOfSteps ∧ report.run.requests.length = 2 ∧ a.Unbroken {} report.run :=
  ⟨rfl, (budget_run _ _ _).2.1.mp rfl⟩

end Agent

end Colloquy
