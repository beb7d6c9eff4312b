import Colloquy.Proofs.Agent.Budget
import Colloquy.Proofs.Agent.Transcript
import Colloquy.Proofs.Tool.Containment

/-!
# How many calls a run executes

The calls of a response are counted before any of them is executed, together with
all the calls before them. As long as the count is within the limit all calls
are executed, those of one response after those of another; the first response
that goes beyond it ends the run, and none of its calls is executed
(`Agent.StoppedBy`). There is nothing in between: no call is executed for a part
of a response.

The count stops at the greatest number of thirty-two bits, while the calls
themselves are here counted for what they are (`Agent.callsAsked`). A limit below
that number is reached by the one exactly when it is reached by the other. That a
handler was invoked is read off the timeline, which also shows the handlers
that were at work when a run ended because it was late.
-/

namespace Colloquy

open Provider (Completion)
open Tool (Batch Timeline)

namespace Agent

/-- **How many calls responses ask for.** -/
def callsAsked (cs : List Completion) : Nat :=
  (cs.map fun c => c.toolCalls.length).sum

/-- **How many calls were executed** in batches. -/
def callsExecuted (batches : List Batch) : Nat :=
  (batches.map fun b => b.records.length).sum

variable (a : Agent) (t : Task)

/-- **A response stops a run** by asking for too many calls: the run says so, and
has of the response what it says about itself, and nothing else. -/
structure StoppedBy (messages : List Message) (earlier : List Completion) (c : Completion)
    (report : Run.Report) : Prop where
  /-- The tool calls are used up. -/
  ending : report.ending = .ok .outOfCalls
  /-- The run says so. -/
  payload : report.payload = .ok (Answer.ownText t.responseSchema.isSome Run.outOfCallsText)
  /-- The response is the last one. -/
  completions : report.run.completions = earlier ++ [c]
  /-- No request was made after it. -/
  requests : report.run.requests.length = earlier.length + 1
  /-- The batches are those of the earlier responses. -/
  executed : report.run.batches = a.executedFor t earlier
  /-- So are the handlers that were invoked. -/
  started : report.run.timeline.started = a.invokedFor t earlier
  /-- So is all that is said. -/
  messages : report.run.messages = a.conversation t messages earlier
  /-- Its tokens are counted. -/
  usage : report.run.usage = .ofList ((earlier ++ [c]).map Completion.usage)
  /-- Its id is taken down. -/
  responseId : report.run.responseId = c.responseId.or (lastId t.previousResponseId earlier)

variable {a t} {d : Option Nat} {messages : List Message} {r r' : Run} {c : Completion}
variable {cs earlier : List Completion}

/-! ## Counting calls -/

theorem callsAsked_append (cs cs' : List Completion) :
    callsAsked (cs ++ cs') = callsAsked cs + callsAsked cs' := by
  simp only [callsAsked, List.map_append, List.sum_append]

theorem callsAsked_concat (cs : List Completion) (c : Completion) :
    callsAsked (cs ++ [c]) = callsAsked cs + c.toolCalls.length := by
  rw [callsAsked_append]
  exact congrArg (callsAsked cs + ·) (List.sum_singleton ..)

/-- Fewer responses do not ask for more. -/
theorem callsAsked_mono (h : earlier <+: cs) : callsAsked earlier ≤ callsAsked cs := by
  obtain ⟨later, rfl⟩ := h
  rw [callsAsked_append]
  exact Nat.le_add_right _ _

/-- A response without calls asks for no more. -/
theorem callsAsked_concat_of_no_calls (hc : c.hasToolCalls = false) (cs : List Completion) :
    callsAsked (cs ++ [c]) = callsAsked cs := by
  rw [callsAsked_concat, Completion.toolCalls_eq_nil hc]
  rfl

/-- **Below the greatest number calls are counted for what they are.** -/
theorem callCount_le_iff {limit : Nat} (h : limit < Limits.greatestCalls) :
    callCount cs ≤ limit ↔ callsAsked cs ≤ limit := by
  show min (callsAsked cs) _ ≤ limit ↔ _
  omega

/-! ## Executing them -/

/-- A batch has as many records as there are calls. -/
theorem length_records_batchAfter (a : Agent) (t : Task) (earlier : List Completion)
    (c : Completion) : (a.batchAfter t earlier c).records.length = c.toolCalls.length :=
  (forall₂_answers_batchAfter a t earlier c).length_eq.symm

/-- **What is executed for responses is all they ask for.** -/
theorem callsExecuted_executedFor (a : Agent) (t : Task) (cs : List Completion) :
    callsExecuted (a.executedFor t cs) = callsAsked cs := by
  induction cs using List.reverseRecOn with
  | nil => rfl
  | append_singleton cs c ih =>
    rw [executedFor_concat, callsExecuted, List.map_append, List.sum_append]
    show callsExecuted _ + _ = _
    rw [ih]
    cases hasks : c.hasToolCalls with
    | true =>
      rw [callsAsked_concat, ← length_records_batchAfter a t cs c]
      rfl
    | false =>
      rw [callsAsked_concat_of_no_calls hasks]
      rfl

/-- A batch invokes no more handlers than there are calls. -/
theorem length_invoked_batchAfter_le (a : Agent) (t : Task) (earlier : List Completion)
    (c : Completion) : (a.batchAfter t earlier c).invoked.length ≤ c.toolCalls.length := by
  obtain ⟨sleeps, haccount, -⟩ := Tool.accountFor_execute a.provider.mode a.parallel a.registry
    t.context (a.invokedFor t earlier) c.toolCalls
  exact haccount.length_invoked_le

theorem length_invokedFor_le (a : Agent) (t : Task) (cs : List Completion) :
    (a.invokedFor t cs).length ≤ callsAsked cs := by
  induction cs using List.reverseRecOn with
  | nil => exact Nat.le_refl 0
  | append_singleton cs c ih =>
    rw [invokedFor_concat, List.length_append, callsAsked_concat]
    exact Nat.add_le_add ih (length_invoked_batchAfter_le a t cs c)

/-- **The handlers that are seen to start are those that are invoked.** -/
theorem StepsTo.started_eq (h : a.StepsTo t d r c r')
    (hstarted : r.timeline.started = r.invoked) : r'.timeline.started = r'.invoked := by
  cases h with
  | calls hears asks within intime =>
    show Timeline.started (r.timeline ++ Timeline.later _ (a.execute t r c).timeline)
      = (r.batches ++ [a.execute t r c]).flatMap Batch.invoked
    rw [Timeline.started_append, Timeline.started_later, hstarted, execute,
      Tool.started_execute, List.flatMap_append, List.flatMap_singleton]
    rfl
  | rejected hears asks validator verdict => exact hstarted

/-! ## The limit -/

/-- **Responses that let a run go on keep within the limit.** -/
theorem callsAsked_le_of_goesOn (hlimit : a.limits.maxToolCalls < Limits.greatestCalls)
    (h : ∀ earlier c, earlier ++ [c] <+: cs → a.GoesOn t earlier c) :
    callsAsked cs ≤ a.limits.maxToolCalls := by
  induction cs using List.reverseRecOn with
  | nil => exact Nat.zero_le _
  | append_singleton cs c ih =>
    have hlast := h cs c List.prefix_rfl
    unfold GoesOn at hlast
    cases hasks : c.hasToolCalls with
    | true =>
      rw [if_pos hasks] at hlast
      exact (callCount_le_iff hlimit).mp hlast
    | false =>
      rw [callsAsked_concat_of_no_calls hasks]
      exact ih fun earlier c' hbefore => h earlier c' (hbefore.trans (List.prefix_append _ _))

variable (a t) in
/-- **A run that goes on**: its accounts are right, no response has ended it, and
what is seen of its tools is what was invoked. -/
structure UnderWay (messages : List Message) (r : Run) : Prop where
  /-- The accounts are right. -/
  ledger : a.Ledger t messages r
  /-- It is unbroken. -/
  unbroken : a.Unbroken t r
  /-- The handlers that started were invoked, and no others. -/
  started : r.timeline.started = r.invoked

theorem UnderWay.start (a : Agent) (t : Task) (messages : List Message) :
    a.UnderWay t messages (.start a t messages) :=
  ⟨.start a t messages, .start a t messages, rfl⟩

theorem UnderWay.step (h : a.UnderWay t messages r) (hstep : a.StepsTo t d r c r') :
    a.UnderWay t messages r' :=
  ⟨h.ledger.step hstep, h.unbroken.step h.ledger hstep, hstep.started_eq h.started⟩

/-- What a run that goes on has begun, its responses have asked for. -/
theorem UnderWay.length_started_le (h : a.UnderWay t messages r) :
    r.timeline.started.length ≤ callsAsked r.completions := by
  rw [h.started, h.ledger.invoked]
  exact length_invokedFor_le a t _

/-- A run that goes on is within the limit. -/
theorem UnderWay.callsAsked_le (h : a.UnderWay t messages r)
    (hlimit : a.limits.maxToolCalls < Limits.greatestCalls) :
    callsAsked r.completions ≤ a.limits.maxToolCalls :=
  callsAsked_le_of_goesOn hlimit h.unbroken.goesOn

variable (a) in
/-- **A run keeps within its budget**: its responses ask for no more calls than
there may be, and nothing else is begun. -/
structure KeepsWithin (report : Run.Report) : Prop where
  /-- The calls are not used up. -/
  ending : report.ending ≠ .ok .outOfCalls
  /-- There are not too many. -/
  asked : callsAsked report.run.completions ≤ a.limits.maxToolCalls
  /-- They are more than the handlers that were invoked. -/
  started : report.run.timeline.started.length ≤ callsAsked report.run.completions

/-- An end at which nothing is executed keeps within the budget. -/
theorem UnderWay.keepsWithin (h : a.UnderWay t messages r) {report : Run.Report}
    (hending : report.ending ≠ .ok .outOfCalls)
    (hcompletions : r.completions <+: report.run.completions)
    (hasked : callsAsked report.run.completions ≤ a.limits.maxToolCalls)
    (htimeline : report.run.timeline = r.timeline) : a.KeepsWithin report where
  ending := hending
  asked := hasked
  started := htimeline ▸ h.length_started_le.trans (callsAsked_mono hcompletions)

/-- What has started by some time is no more than what starts. -/
theorem length_started_upTo_le (time : Nat) (timeline : Timeline) :
    (timeline.upTo time).started.length ≤ timeline.started.length :=
  (List.filter_sublist.filterMap fun e : Nat × Tool.Event => e.2.started?).length_le

/-- **Calls that are abandoned keep within the budget**, however far they came. -/
theorem UnderWay.keepsWithin_of_abandoned (h : a.UnderWay t messages r)
    (hasked : callsAsked (r.completions ++ [c]) ≤ a.limits.maxToolCalls) (time : Nat) :
    a.KeepsWithin ⟨.error a.tooLate,
      ((a.heard t r c).countCalls c).abandonCalls (a.execute t r c) time⟩ := by
  have hcompletions :
      (((a.heard t r c).countCalls c).abandonCalls (a.execute t r c) time).completions
        = r.completions ++ [c] := completions_of_exchanges rfl
  have hbegun (delay : Nat) :
      (Timeline.later delay (a.execute t r c).timeline).started.length ≤ c.toolCalls.length := by
    rw [Timeline.started_later, execute, Tool.started_execute, ← execute, h.ledger.execute_eq]
    exact length_invoked_batchAfter_le a t _ c
  exact {
    ending := by simp
    asked := hcompletions ▸ hasked
    started := by
      rw [hcompletions, callsAsked_concat]
      show (Timeline.started (r.timeline ++ Timeline.upTo time _)).length ≤ _
      rw [Timeline.started_append, List.length_append]
      exact Nat.add_le_add h.length_started_le ((length_started_upTo_le _ _).trans (hbegun _)) }

/-- There was one exchange for each response. -/
theorem Account.length_exchanges (h : a.Account t messages r) :
    r.exchanges.length = r.completions.length := by
  simpa using congrArg List.length h.answered

/-- **A response that asks for too many calls** stops the run. -/
theorem UnderWay.stoppedBy (h : a.UnderWay t messages r) (hears : a.Hears t d r c)
    (hasks : c.hasToolCalls = true)
    (hbeyond : a.limits.maxToolCalls < Run.plusCalls r.callsUsed c.toolCalls.length) :
    a.StoppedBy t messages r.completions c ⟨.ok .outOfCalls, (a.heard t r c).countCalls c⟩ := by
  have hclose : a.Closes t d r ⟨.ok .outOfCalls, (a.heard t r c).countCalls c⟩ :=
    .tooMany hears hasks hbeyond
  obtain ⟨c', htakes⟩ := hclose.takes h.ledger.callsUsed_le rfl
  have haccount := h.ledger.takes htakes
  have hcompletions : ((a.heard t r c).countCalls c).completions = r.completions ++ [c] :=
    completions_of_exchanges rfl
  exact {
    ending := rfl
    payload := by
      rw [Run.Report.payload, Run.structured, haccount.validator, validatorAfter,
        Option.isSome_map]
      rfl
    completions := hcompletions
    requests := by
      rw [hclose.requests_eq, List.length_append, Run.requests, List.length_map,
        h.ledger.length_exchanges]
      rfl
    executed := h.unbroken.executed
    started := h.started.trans h.ledger.invoked
    messages := by
      rw [haccount.messages, hcompletions, conversation_concat, segmentAfter,
        ← plusCalls_callCount, ← h.ledger.callsUsed, segment_beyond hasks hbeyond,
        List.append_nil]
    usage := by rw [haccount.usage, hcompletions]
    responseId := by rw [haccount.responseId, hcompletions, lastId_concat] }

/-- **A run keeps within its budget to the end, or a response stops it.** -/
theorem UnderWay.keepsWithin_or_stoppedBy (h : a.UnderWay t messages r)
    (hlimit : a.limits.maxToolCalls < Limits.greatestCalls) {report : Run.Report}
    (hclose : a.Closes t d r report) :
    a.KeepsWithin report ∨ ∃ c, a.StoppedBy t messages r.completions c report
      ∧ a.limits.maxToolCalls < callsAsked (r.completions ++ [c]) := by
  have hwithin := h.callsAsked_le hlimit
  -- the calls of a response are counted to the limit and beyond alike
  have hcount (c : Completion) :
      Run.plusCalls r.callsUsed c.toolCalls.length ≤ a.limits.maxToolCalls
        ↔ callsAsked (r.completions ++ [c]) ≤ a.limits.maxToolCalls := by
    rw [h.ledger.callsUsed, plusCalls_callCount, callCount_le_iff hlimit]
  -- nothing is executed at these ends, and nothing more is asked for
  have hunheard {f : Failure} {r' : Run} (hcompletions : r'.completions = r.completions)
      (htimeline : r'.timeline = r.timeline) : a.KeepsWithin ⟨.error f, r'⟩ :=
    h.keepsWithin (by simp) (hcompletions ▸ List.prefix_rfl) (hcompletions ▸ hwithin) htimeline
  have hsaid {c : Completion} {e : Run.Ending} {r' : Run} (hasks : c.hasToolCalls = false)
      (hcompletions : r'.completions = r.completions ++ [c]) (he : e ≠ .outOfCalls)
      (htimeline : r'.timeline = r.timeline) : a.KeepsWithin ⟨.ok e, r'⟩ := by
    refine h.keepsWithin (by simpa using he) (hcompletions ▸ List.prefix_append _ _) ?_ htimeline
    rw [hcompletions, callsAsked_concat_of_no_calls hasks]
    exact hwithin
  cases hclose with
  | late missed =>
    exact .inl (hunheard ((List.filterMap_append ..).trans (List.append_nil _)) rfl)
  | failed reply intime =>
    exact .inl (hunheard ((List.filterMap_append ..).trans (List.append_nil _)) rfl)
  | @tooMany c hears asks beyond =>
    refine .inr ⟨c, h.stoppedBy hears asks beyond, Nat.lt_of_not_le fun hle => ?_⟩
    exact absurd ((hcount c).mpr hle) (Nat.not_le.mpr beyond)
  | @abandoned c time hears asks within missed =>
    exact .inl (h.keepsWithin_of_abandoned ((hcount c).mp within) time)
  | answered hears asks validator =>
    exact .inl (hsaid asks (completions_of_exchanges rfl) (by simp) rfl)
  | accepted hears asks validator verdict =>
    exact .inl (hsaid asks (completions_of_exchanges rfl) (by simp) rfl)
  | gaveUp hears asks validator verdict =>
    exact .inl (hsaid asks (completions_of_exchanges rfl) (by simp) rfl)

/-- **Every run keeps within its budget, or is stopped by a response.** -/
theorem keepsWithin_or_stoppedBy (h : a.limits.maxToolCalls < Limits.greatestCalls) :
    a.KeepsWithin (a.runUntil d t messages)
      ∨ ∃ earlier c, a.StoppedBy t messages earlier c (a.runUntil d t messages)
        ∧ callsAsked earlier ≤ a.limits.maxToolCalls
        ∧ a.limits.maxToolCalls < callsAsked (earlier ++ [c]) := by
  refine steps_induction (P := a.UnderWay t messages)
    (Q := fun report => a.KeepsWithin report
      ∨ ∃ earlier c, a.StoppedBy t messages earlier c report
        ∧ callsAsked earlier ≤ a.limits.maxToolCalls
        ∧ a.limits.maxToolCalls < callsAsked (earlier ++ [c]))
    (fun _ _ _ hr hstep => hr.step hstep) (fun r report hr hclose => ?_) (fun r hr => ?_) _
    (.start a t messages)
  · rcases hr.keepsWithin_or_stoppedBy h hclose with hwithin | ⟨c, hstopped, hbeyond⟩
    · exact .inl hwithin
    · exact .inr ⟨r.completions, c, hstopped, hr.callsAsked_le h, hbeyond⟩
  · exact .inl (hr.keepsWithin (by simp) List.prefix_rfl (hr.callsAsked_le h) rfl)

/-- **The budget of calls.** A run executes all the calls of its responses or, for
the last of them, none; it executes no more calls than there may be, and begins no
more, whether or not they come to their end. It ends for want of calls exactly if
its responses ask for more than that; and the first response that does, with those
before it, stops the run. -/
theorem calls_run (a : Agent) (t : Task) (messages : List Message)
    (h : a.limits.maxToolCalls < Limits.greatestCalls) :
    let report := a.run t messages
    (∃ executed, report.run.batches = a.executedFor t executed
        ∧ callsExecuted report.run.batches = callsAsked executed
        ∧ (report.run.completions = executed ∨ ∃ c, report.run.completions = executed ++ [c]))
      ∧ callsExecuted report.run.batches ≤ a.limits.maxToolCalls
      ∧ report.run.timeline.started.length ≤ a.limits.maxToolCalls
      ∧ (report.ending = .ok .outOfCalls
          ↔ a.limits.maxToolCalls < callsAsked report.run.completions)
      ∧ ∀ earlier c, earlier ++ [c] <+: report.run.completions →
          callsAsked earlier ≤ a.limits.maxToolCalls →
          a.limits.maxToolCalls < callsAsked (earlier ++ [c]) →
          a.StoppedBy t messages earlier c report := by
  intro report
  have hcases : a.KeepsWithin report ∨ ∃ earlier c, a.StoppedBy t messages earlier c report
      ∧ callsAsked earlier ≤ a.limits.maxToolCalls
      ∧ a.limits.maxToolCalls < callsAsked (earlier ++ [c]) := keepsWithin_or_stoppedBy h
  obtain ⟨executed, hbatches, hcompletions⟩ : ∃ cs, report.run.batches = a.executedFor t cs
      ∧ (report.run.completions = cs ∨ ∃ c, report.run.completions = cs ++ [c]) :=
    exists_batches_eq a t _ messages
  have hexecuted : callsExecuted report.run.batches = callsAsked executed :=
    hbatches ▸ callsExecuted_executedFor a t executed
  refine ⟨⟨executed, hbatches, hexecuted, hcompletions⟩, ?_⟩
  rcases hcases with hwithin | ⟨earlier, c, hstopped, hearlier, hbeyond⟩
  · refine ⟨?_, hwithin.started.trans hwithin.asked, ?_, fun earlier c hbefore _ hbeyond => ?_⟩
    · have hbefore : executed <+: report.run.completions := by
        rcases hcompletions with heq | ⟨c, heq⟩
        · exact heq ▸ List.prefix_rfl
        · exact heq ▸ List.prefix_append _ _
      exact hexecuted.le.trans ((callsAsked_mono hbefore).trans hwithin.asked)
    · exact iff_of_false hwithin.ending (Nat.not_lt.mpr hwithin.asked)
    · exact absurd ((callsAsked_mono hbefore).trans hwithin.asked) (Nat.not_le.mpr hbeyond)
  · refine ⟨?_, ?_, ?_, fun earlier' c' hbefore _ hbeyond' => ?_⟩
    · rw [hstopped.executed, callsExecuted_executedFor]
      exact hearlier
    · rw [hstopped.started]
      exact (length_invokedFor_le a t earlier).trans hearlier
    · rw [hstopped.completions]
      exact iff_of_true hstopped.ending hbeyond
    · rw [hstopped.completions, List.prefix_concat_iff] at hbefore
      rcases hbefore with heq | hbefore
      · obtain ⟨rfl, hc⟩ := List.append_inj' heq rfl
        cases hc
        exact hstopped
      · -- the responses before the one that stops the run are within the limit
        exact absurd ((callsAsked_mono hbefore).trans hearlier) (Nat.not_le.mpr hbeyond')

/-- A run that may execute one call and is asked for two, in one response each. -/
theorem calls_run_lookingUp :
    let a : Agent := { Agent.lookingUp .responses [.lookUp none, .lookUp (some "second")] with
      limits := ⟨8, 1, 60, by decide, by decide, by decide⟩ }
    let messages := [Message.user "Where is it?"]
    a.limits.maxToolCalls < Limits.greatestCalls
      ∧ a.StoppedBy {} messages [.lookUp none] (.lookUp (some "second")) (a.run {} messages) :=
  ⟨by decide, (calls_run _ _ _ (by decide)).2.2.2.2 _ _ List.prefix_rfl (by decide) (by decide)⟩

end Agent

end Colloquy
