import Colloquy.Proofs.Agent.Budget
import Colloquy.Proofs.Answer.Contract
import Colloquy.Proofs.Exchanges

/-!
# What a run answers

A run that does not fail has an answer, and there are five ways to it
(`Agent.Concludes`). Only two of them have to do with what the model says: its last
response is the answer, or, where an answer of a certain form is wanted, gives one.
In the other three the engine answers in its own words: no response gave an answer
and as many were heard as may be, or the requests or the calls are used up.

Where the form is wanted the answer has it, whichever way it came about. A response
that does not give an answer is sent back until the attempts are used up, so that a
run which gives up has heard just as many such responses as it looks at. This is seen
from a run that goes on: it has sent back every candidate up to then
(`Unbroken.not_gives`), and has an attempt left for the next one.
-/

namespace Colloquy

open Provider (Completion)

namespace Agent

variable (a : Agent) (t : Task)

/-- **How a run comes to its answer**, and to which one. -/
inductive Concludes (report : Run.Report) : Json → Prop
  /-- The last response is the answer. -/
  | answered {earlier : List Completion} {c : Completion}
      (form : t.responseSchema = none) (ending : report.ending = .ok (.answered c.content))
      (heard : report.run.completions = earlier ++ [c]) (asks : c.hasToolCalls = false) :
      Concludes report (.str c.content)
  /-- The last response gives the answer, and none before it gave one. -/
  | accepted {earlier : List Completion} {c : Completion} {answer : Answer}
      (form : t.responseSchema ≠ none) (ending : report.ending = .ok (.accepted answer))
      (heard : report.run.completions = earlier ++ [c]) (asks : c.hasToolCalls = false)
      (gives : Answer.Gives c.content answer)
      (others : ∀ c' ∈ earlier, c'.hasToolCalls = false →
        ∀ answer, ¬ Answer.Gives c'.content answer) :
      Concludes report answer.toJson
  /-- The last response gives no answer, nor has one before it, and that makes as many
  as may be. -/
  | gaveUp {earlier : List Completion} {c : Completion}
      (form : t.responseSchema ≠ none) (ending : report.ending = .ok .gaveUp)
      (heard : report.run.completions = earlier ++ [c]) (asks : c.hasToolCalls = false)
      (rejected : ∀ c' ∈ report.run.completions, c'.hasToolCalls = false →
        ∀ answer, ¬ Answer.Gives c'.content answer)
      (attempts : answerCount report.run.completions = max 1 a.maxAttempts) :
      Concludes report Answer.fallback
  /-- The requests are used up, and every response but the last has led to the next
  request. -/
  | outOfSteps (ending : report.ending = .ok .outOfSteps)
      (requests : report.run.requests.length = a.limits.maxSteps)
      (unbroken : a.Unbroken t report.run) :
      Concludes report (Answer.ownText t.responseSchema.isSome Run.outOfStepsText)
  /-- The last response asks for more calls than there may be. -/
  | outOfCalls {earlier : List Completion} {c : Completion}
      (ending : report.ending = .ok .outOfCalls)
      (heard : report.run.completions = earlier ++ [c]) (asks : c.hasToolCalls = true)
      (beyond : a.limits.maxToolCalls < callCount report.run.completions) :
      Concludes report (Answer.ownText t.responseSchema.isSome Run.outOfCallsText)

variable {a t} {d : Option Nat} {messages : List Message} {r : Run} {payload : Json}

/-! ## Candidates up to now -/

/-- A structured answer is wanted where there is a schema. -/
theorem Account.structured_eq (hr : a.Account t messages r) :
    r.structured = t.responseSchema.isSome := by
  rw [Run.structured, hr.validator, validatorAfter, Option.isSome_map]

/-- A validator is there only where there is a schema. -/
theorem Account.schema_ne_none (hr : a.Account t messages r) {w : Answer.Validator}
    (hvalidator : r.validator = some w) : t.responseSchema ≠ none := by
  rw [← Option.isSome_iff_ne_none, ← hr.structured_eq, Run.structured, hvalidator]
  rfl

/-- **A validator has been given the candidates** of its run, and looks at one at
least. -/
theorem Account.attempts_eq (hr : a.Account t messages r) {w : Answer.Validator}
    (hvalidator : r.validator = some w) :
    w.attempts = answerCount r.completions ∧ w.maxAttempts = max 1 a.maxAttempts := by
  have hafter : a.validatorAfter t r.completions = some w := hr.validator.symm.trans hvalidator
  obtain ⟨schema, -, rfl⟩ := Option.map_eq_some_iff.mp hafter
  rw [Answer.Validator.attempts_foldl, Answer.Validator.maxAttempts_foldl]
  exact ⟨Nat.zero_add _, Nat.max_comm _ _⟩

/-- **A run that goes on has heard no answer** of the form it wants. -/
theorem Unbroken.not_gives (h : a.Unbroken t r) :
    ∀ c ∈ r.completions, c.hasToolCalls = false → ∀ answer, ¬ Answer.Gives c.content answer := by
  intro c hc hasks answer
  obtain ⟨earlier, later, hsplit⟩ := List.append_of_mem hc
  have hgoesOn := h.goesOn earlier c ⟨later, by rw [hsplit, List.append_assoc]; rfl⟩
  unfold GoesOn at hgoesOn
  rw [if_neg (by simp [hasks])] at hgoesOn
  obtain ⟨rejection, attempts, hverdict⟩ := hgoesOn
  obtain ⟨w, -, hretry⟩ := Option.map_eq_some_iff.mp hverdict
  exact Answer.Validator.not_gives_of_retry hretry

/-! ## The end -/

/-- **Every end with an answer is one of these.** -/
theorem Closes.concludes (hr : a.Ledger t messages r) (hunbroken : a.Unbroken t r)
    {report : Run.Report} (h : a.Closes t d r report) (hpayload : report.payload = .ok payload) :
    a.Concludes t report payload := by
  cases h with
  | late missed => cases hpayload
  | failed reply intime => cases hpayload
  | abandoned hears asks within missed => cases hpayload
  | @tooMany c hears asks beyond =>
    have hheard : ((a.heard t r c).countCalls c).completions = r.completions ++ [c] :=
      completions_of_exchanges rfl
    cases hpayload
    show a.Concludes t _ (Answer.ownText r.structured Run.outOfCallsText)
    rw [hr.structured_eq]
    refine .outOfCalls rfl hheard asks ?_
    show _ < callCount ((a.heard t r c).countCalls c).completions
    rw [hheard, ← plusCalls_callCount, ← hr.callsUsed]
    exact beyond
  | @answered c hears asks validator =>
    cases hpayload
    refine .answered ?_ rfl (completions_of_exchanges rfl) asks
    rw [← Option.not_isSome_iff_eq_none, ← hr.structured_eq, Run.structured, validator]
    exact Bool.false_ne_true
  | @accepted c w answer n hears asks validator verdict =>
    cases hpayload
    exact .accepted (hr.schema_ne_none validator) rfl (completions_of_exchanges rfl) asks
      (Answer.Validator.gives_of_valid verdict) hunbroken.not_gives
  | @gaveUp c w rejection n history hears asks validator verdict =>
    have hheard : (a.afterCandidate t r c w).completions = r.completions ++ [c] :=
      completions_of_exchanges rfl
    cases hpayload
    refine .gaveUp (hr.schema_ne_none validator) rfl hheard asks ?_ ?_
    · show ∀ c' ∈ (a.afterCandidate t r c w).completions, _
      rw [hheard]
      intro c' hc' hasks answer
      rcases List.mem_append.mp hc' with hc' | hc'
      · exact hunbroken.not_gives c' hc' hasks answer
      · cases List.mem_singleton.mp hc'
        exact (Answer.Validator.not_gives_of_fail verdict).1
    · -- there were attempts left for this one, and there are none for another
      show answerCount (a.afterCandidate t r c w).completions = _
      have hfewer := answerCount_lt hunbroken.goesOn
      have hlast := (Answer.Validator.not_gives_of_fail (a := default) verdict).2
      obtain ⟨hattempts, hmax⟩ := hr.attempts_eq validator
      rw [hheard, answerCount_concat, if_neg (by simp [asks])]
      rw [Nat.max_comm] at hfewer
      omega

/-- **A run that has an answer comes to it in one of these ways.** -/
theorem concludes_runUntil (h : (a.runUntil d t messages).payload = .ok payload) :
    a.Concludes t (a.runUntil d t messages) payload := by
  by_cases hout : (a.runUntil d t messages).ending = .ok .outOfSteps
  · have haccount : a.Account t messages (a.runUntil d t messages).run := account_runUntil hout
    have hstructured := haccount.structured_eq
    rw [Run.Report.payload, hout, hstructured] at h
    cases h
    refine .outOfSteps hout ?_ (outOfSteps_iff_unbroken.mp hout)
    exact (length_requests_runUntil messages).trans (length_stages_of_outOfSteps hout)
  · revert h hout
    exact runUntil_induction
      (Q := fun report => report.payload = .ok payload → ¬ report.ending = .ok .outOfSteps →
        a.Concludes t report payload)
      (fun _ _ hr hunbroken hclose hpayload _ => hclose.concludes hr hunbroken hpayload)
      (fun _ _ _ _ hne => absurd rfl hne)

/-- Where a form is wanted, **every answer has it**. -/
theorem Concludes.says {report : Run.Report} (h : a.Concludes t report payload)
    (hform : t.responseSchema ≠ none) : ∃ answer, Answer.Says payload answer := by
  -- what the engine says on its own is never blank
  have hown {s : String} (hs : Text.isBlankText s = false) :
      ∃ answer, Answer.Says (Answer.ownText t.responseSchema.isSome s) answer := by
    rw [Option.isSome_iff_ne_none.mpr hform]
    exact ⟨_, Answer.says_plain hs⟩
  cases h with
  | answered form => exact absurd form hform
  | accepted form ending heard asks gives others =>
    obtain ⟨v, -, hsays⟩ := gives
    exact ⟨_, hsays.toJson⟩
  | gaveUp => exact ⟨_, Answer.says_plain (by decide)⟩
  | outOfSteps => exact hown (by decide)
  | outOfCalls => exact hown (by decide)

/-- Where none is wanted, **every answer is text**: that of the last response, or one of
the engine's own. -/
theorem Concludes.text {report : Run.Report} (h : a.Concludes t report payload)
    (hform : t.responseSchema = none) :
    ∃ text, payload = .str text
      ∧ ((∃ earlier c, report.run.completions = earlier ++ [c] ∧ c.content = text)
        ∨ text = Run.outOfStepsText ∨ text = Run.outOfCallsText) := by
  cases h with
  | answered form ending heard asks => exact ⟨_, rfl, .inl ⟨_, _, heard, rfl⟩⟩
  | accepted form => exact absurd hform form
  | gaveUp form => exact absurd hform form
  | outOfSteps =>
    rw [hform]
    exact ⟨_, rfl, .inr (.inl rfl)⟩
  | outOfCalls =>
    rw [hform]
    exact ⟨_, rfl, .inr (.inr rfl)⟩

/-- **What a run answers.** Where a form is wanted, the answer has it, whichever way the
run ends: nothing in it violates the contract. It is the normal form of what the last
response gives, or what stands for an answer because as many responses were heard as
may be and none of them gave one, or because the requests or the calls are used up.
Where no form is wanted the answer is text, and that of the last response unless the
requests or the calls are used up. -/
theorem conclusion_run (h : (a.run t messages).payload = .ok payload) :
    let report := a.run t messages
    a.provider.Replied report.run.exchanges
      ∧ a.Concludes t report payload
      ∧ (t.responseSchema ≠ none →
          Answer.violations payload = [] ∧ ∃ answer, Answer.Says payload answer)
      ∧ (t.responseSchema = none →
          ∃ text, payload = .str text
            ∧ ((∃ earlier c, report.run.completions = earlier ++ [c] ∧ c.content = text)
              ∨ text = Run.outOfStepsText ∨ text = Run.outOfCallsText)) := by
  intro report
  obtain ⟨ending, hending, -⟩ := Run.Report.payload_eq_ok_iff.mp h
  have hbooks : Books a.provider report.run.exchanges report.run.usage := books_runUntil hending
  have hconcludes : a.Concludes t report payload := concludes_runUntil h
  refine ⟨hbooks.replied, hconcludes, fun hform => ?_, hconcludes.text⟩
  have hsays := hconcludes.says hform
  exact ⟨Answer.violations_eq_nil_iff.mpr hsays, hsays⟩

/-- A run that looks something up and then fails to say what it has found in the form
that is wanted. -/
theorem conclusion_run_lookingUp :
    let a : Agent := { Agent.lookingUp .chatCompletions
        [.lookUp none, { content := "It is here." }, { content := "Here." }] with maxAttempts := 2 }
    let t : Task := { responseSchema := some (.obj []) }
    let report := a.run t [.user "Where is it?"]
    ∃ payload, report.payload = .ok payload
      ∧ Answer.violations payload = []
      ∧ a.Concludes t report payload
      ∧ answerCount report.run.completions = 2 := by
  intro a t report
  obtain ⟨payload, hpayload⟩ : ∃ payload, report.payload = .ok payload :=
    exists_eq_ok_of_isOk (by decide +kernel)
  obtain ⟨-, hconcludes, hform, -⟩ := conclusion_run hpayload
  exact ⟨payload, hpayload, (hform (by decide)).1, hconcludes, by decide +kernel⟩

end Agent

end Colloquy
