import Colloquy.Agent.Run

/-!
# What a step can do

A step of a run either leads to another one or ends the run, and there are
few ways of doing either. Another step comes after calls that were executed
(`afterCalls`) and after a candidate that was rejected (`afterRejection`);
these are the constructors of `StepsTo`. The run ends when it is late, when
the request fails, with an answer, or without one – the constructors of
`Closes`. Each constructor holds all that was tested on the way, and there
are no other ways (`stepsTo_or_closes`), so that nothing else needs to look
at how a step is carried out.

What holds of a whole run follows by `steps_induction` from what each of
these ways keeps.
-/

namespace Colloquy

open Provider (Completion Exchange Outcome Reply Request)
open Tool (Batch)

namespace Run

/-- The completions with which a run was answered, in order. -/
def completions (r : Run) : List Completion :=
  r.exchanges.filterMap Exchange.completion?

/-- **A run has an answer exactly if it ends without failing**, and it is that of its
ending. -/
theorem Report.payload_eq_ok_iff {report : Report} {v : Json} :
    report.payload = .ok v
      ↔ ∃ e : Ending, report.ending = .ok e ∧ v = e.payload report.run.structured := by
  unfold Report.payload
  cases report.ending with
  | ok e => simp [Except.map, eq_comm]
  | error f => simp [Except.map]

end Run

namespace Agent

variable (a : Agent) (t : Task)

/-- The reply to the next request of a run. -/
def replyTo (r : Run) : Reply :=
  a.provider.reply r.exchanges.length (a.request t r)

/-- **A run that has heard a completion**, and has taken down what it says
about itself. -/
def heard (r : Run) (c : Completion) : Run :=
  (r.await (a.request t r) (some (.ok c)) (r.clock + (a.replyTo t r).delay)).account c

/-- **A run whose calls were executed.** -/
def afterCalls (r : Run) (c : Completion) : Run :=
  ((a.heard t r c).countCalls c).finishCalls (a.execute t r c)
    (a.callMessages c (a.execute t r c)) ((a.execute t r c).records.flatMap a.recordItems)

/-- A run in which the model has said something. -/
def afterAnswer (r : Run) (c : Completion) : Run :=
  (a.heard t r c).push [.assistant c.content]

/-- A run in which what the model has said was looked at. -/
def afterCandidate (r : Run) (c : Completion) (w : Answer.Validator) : Run :=
  { a.afterAnswer t r c with validator := some (w.receive c.content).1 }

/-- **A run in which a candidate was rejected.** -/
def afterRejection (r : Run) (c : Completion) (w : Answer.Validator)
    (rejection : Answer.Rejection) : Run :=
  a.askAgain (a.afterCandidate t r c w) rejection

variable (d : Option Nat) (r : Run)

/-- **The run hears a completion in time.** -/
structure Hears (c : Completion) : Prop where
  /-- The reply is a completion. -/
  reply : (a.replyTo t r).outcome = .ok c
  /-- It comes in time. -/
  intime : missed? d (r.clock + (a.replyTo t r).delay) = none

/-- **The ways to another step.** -/
inductive StepsTo : Completion → Run → Prop
  /-- The calls that were asked for were executed. -/
  | calls {c : Completion} (hears : a.Hears t d r c) (asks : c.hasToolCalls = true)
      (within : Run.plusCalls r.callsUsed c.toolCalls.length ≤ a.limits.maxToolCalls)
      (intime : missed? d
        (r.clock + (a.replyTo t r).delay + (a.execute t r c).duration) = none) :
      StepsTo c (a.afterCalls t r c)
  /-- The candidate was rejected, and there may be another one. -/
  | rejected {c : Completion} {w : Answer.Validator} {rejection : Answer.Rejection} {n : Nat}
      (hears : a.Hears t d r c) (asks : c.hasToolCalls = false)
      (validator : r.validator = some w)
      (verdict : (w.receive c.content).2 = .retry rejection n) :
      StepsTo c (a.afterRejection t r c w rejection)

/-- **The ways to the end.** -/
inductive Closes : Run.Report → Prop
  /-- The reply did not come in time. -/
  | late {time : Nat}
      (missed : missed? d (r.clock + (a.replyTo t r).delay) = some time) :
      Closes ⟨.error a.tooLate, r.await (a.request t r) none time⟩
  /-- The request failed. -/
  | failed {f : Provider.Failure} (reply : (a.replyTo t r).outcome = .error f)
      (intime : missed? d (r.clock + (a.replyTo t r).delay) = none) :
      Closes ⟨.error (.request f),
        r.await (a.request t r) (some (.error f)) (r.clock + (a.replyTo t r).delay)⟩
  /-- There would be too many calls. -/
  | tooMany {c : Completion} (hears : a.Hears t d r c) (asks : c.hasToolCalls = true)
      (beyond : a.limits.maxToolCalls < Run.plusCalls r.callsUsed c.toolCalls.length) :
      Closes ⟨.ok .outOfCalls, (a.heard t r c).countCalls c⟩
  /-- The tools were not done in time. -/
  | abandoned {c : Completion} {time : Nat} (hears : a.Hears t d r c)
      (asks : c.hasToolCalls = true)
      (within : Run.plusCalls r.callsUsed c.toolCalls.length ≤ a.limits.maxToolCalls)
      (missed : missed? d
        (r.clock + (a.replyTo t r).delay + (a.execute t r c).duration) = some time) :
      Closes ⟨.error a.tooLate,
        ((a.heard t r c).countCalls c).abandonCalls (a.execute t r c) time⟩
  /-- An answer of no particular form. -/
  | answered {c : Completion} (hears : a.Hears t d r c) (asks : c.hasToolCalls = false)
      (validator : r.validator = none) :
      Closes ⟨.ok (.answered c.content), a.afterAnswer t r c⟩
  /-- A structured answer. -/
  | accepted {c : Completion} {w : Answer.Validator} {answer : Answer} {n : Nat}
      (hears : a.Hears t d r c) (asks : c.hasToolCalls = false)
      (validator : r.validator = some w)
      (verdict : (w.receive c.content).2 = .valid answer n) :
      Closes ⟨.ok (.accepted answer), a.afterCandidate t r c w⟩
  /-- The last candidate was rejected. -/
  | gaveUp {c : Completion} {w : Answer.Validator} {rejection : Answer.Rejection} {n : Nat}
      {history : List Answer.Rejected} (hears : a.Hears t d r c)
      (asks : c.hasToolCalls = false) (validator : r.validator = some w)
      (verdict : (w.receive c.content).2 = .fail rejection n history) :
      Closes ⟨.ok .gaveUp, a.afterCandidate t r c w⟩

variable {a t d r}

/-! ## A step is one of its ways -/

/-- What is there by the deadline is in time. -/
theorem missed?_of_le {deadline time : Nat} (h : time ≤ deadline) :
    missed? (some deadline) time = none := by
  unfold missed?
  rw [Option.filter_some, if_neg (by simpa using h)]

/-- A completion that is heard is received. -/
theorem Hears.step_eq {c : Completion} (h : a.Hears t d r c) :
    a.step t d r
      = if c.hasToolCalls then a.receiveCalls t d (a.heard t r c) c
        else a.receiveAnswer (a.heard t r c) c := by
  have hreply : (a.provider.reply r.exchanges.length (a.request t r)).outcome = .ok c := h.reply
  have hintime : missed? d (r.clock
      + (a.provider.reply r.exchanges.length (a.request t r)).delay) = none := h.intime
  simp only [step, hintime, hreply]
  rfl

/-- What becomes of a run that hears calls. -/
theorem receiveCalls_heard (c : Completion) :
    a.receiveCalls t d (a.heard t r c) c
      = if a.limits.maxToolCalls < Run.plusCalls r.callsUsed c.toolCalls.length then
          .over ⟨.ok .outOfCalls, (a.heard t r c).countCalls c⟩
        else
          match missed? d
              (r.clock + (a.replyTo t r).delay + (a.execute t r c).duration) with
          | some time =>
            .over ⟨.error a.tooLate,
              ((a.heard t r c).countCalls c).abandonCalls (a.execute t r c) time⟩
          | none => .step (a.afterCalls t r c) := rfl

/-- What becomes of a run that hears an answer. -/
theorem receiveAnswer_heard (c : Completion) :
    a.receiveAnswer (a.heard t r c) c
      = match r.validator with
        | none => .over ⟨.ok (.answered c.content), a.afterAnswer t r c⟩
        | some w =>
          match (w.receive c.content).2 with
          | .valid answer _ => .over ⟨.ok (.accepted answer), a.afterCandidate t r c w⟩
          | .retry rejection _ => .step (a.afterRejection t r c w rejection)
          | .fail _ _ _ => .over ⟨.ok .gaveUp, a.afterCandidate t r c w⟩ := rfl

/-- **The ways to another step lead there.** -/
theorem StepsTo.step_eq {c : Completion} {r' : Run} (h : a.StepsTo t d r c r') :
    a.step t d r = .step r' := by
  cases h with
  | calls hears asks within intime =>
    rw [hears.step_eq, if_pos asks, receiveCalls_heard, if_neg (Nat.not_lt.mpr within), intime]
  | rejected hears asks validator verdict =>
    rw [hears.step_eq, if_neg (by simp [asks]), receiveAnswer_heard]
    simp only [validator, verdict]

/-- **The ways to the end lead there.** -/
theorem Closes.step_eq {report : Run.Report} (h : a.Closes t d r report) :
    a.step t d r = .over report := by
  cases h with
  | late missed =>
    unfold step
    rw [replyTo] at missed
    simp only [missed]
    rfl
  | failed reply intime =>
    rw [replyTo] at reply intime
    simp only [step, intime, reply]
    rfl
  | tooMany hears asks beyond =>
    rw [hears.step_eq, if_pos asks, receiveCalls_heard, if_pos beyond]
  | abandoned hears asks within missed =>
    rw [hears.step_eq, if_pos asks, receiveCalls_heard, if_neg (Nat.not_lt.mpr within), missed]
  | answered hears asks validator =>
    rw [hears.step_eq, if_neg (by simp [asks]), receiveAnswer_heard]
    simp only [validator]
  | accepted hears asks validator verdict =>
    rw [hears.step_eq, if_neg (by simp [asks]), receiveAnswer_heard]
    simp only [validator, verdict]
  | gaveUp hears asks validator verdict =>
    rw [hears.step_eq, if_neg (by simp [asks]), receiveAnswer_heard]
    simp only [validator, verdict]

/-- A run goes on from where a step has led. -/
theorem StepsTo.steps_eq {c : Completion} {r' : Run} (h : a.StepsTo t d r c r') (n : Nat) :
    a.steps t d (n + 1) r = a.steps t d n r' := by
  rw [steps, h.step_eq]

/-- A run ends where a step has ended it. -/
theorem Closes.steps_eq {report : Run.Report} (h : a.Closes t d r report) (n : Nat) :
    a.steps t d (n + 1) r = report := by
  rw [steps, h.step_eq]

/-- **There are no other ways.** -/
theorem stepsTo_or_closes (a : Agent) (t : Task) (d : Option Nat) (r : Run) :
    (∃ c r', a.StepsTo t d r c r') ∨ ∃ report, a.Closes t d r report := by
  cases hintime : missed? d (r.clock + (a.replyTo t r).delay) with
  | some time => exact .inr ⟨_, .late hintime⟩
  | none =>
    cases hreply : (a.replyTo t r).outcome with
    | error f => exact .inr ⟨_, .failed hreply hintime⟩
    | ok c =>
      have hears : a.Hears t d r c := ⟨hreply, hintime⟩
      cases hasks : c.hasToolCalls with
      | true =>
        by_cases hwithin : Run.plusCalls r.callsUsed c.toolCalls.length ≤ a.limits.maxToolCalls
        · cases hdone : missed? d
              (r.clock + (a.replyTo t r).delay + (a.execute t r c).duration) with
          | some time => exact .inr ⟨_, .abandoned hears hasks hwithin hdone⟩
          | none => exact .inl ⟨c, _, .calls hears hasks hwithin hdone⟩
        · exact .inr ⟨_, .tooMany hears hasks (Nat.lt_of_not_le hwithin)⟩
      | false =>
        cases hvalidator : r.validator with
        | none => exact .inr ⟨_, .answered hears hasks hvalidator⟩
        | some w =>
          cases hverdict : (w.receive c.content).2 with
          | valid answer n => exact .inr ⟨_, .accepted hears hasks hvalidator hverdict⟩
          | retry rejection n => exact .inl ⟨c, _, .rejected hears hasks hvalidator hverdict⟩
          | fail rejection n history => exact .inr ⟨_, .gaveUp hears hasks hvalidator hverdict⟩

/-- **A step is one more exchange**, and the completion it was answered with. -/
theorem StepsTo.exchanges_eq {c : Completion} {r' : Run} (h : a.StepsTo t d r c r') :
    r'.exchanges = r.exchanges ++ [⟨a.request t r, some (.ok c)⟩] := by
  cases h with
  | calls _ _ _ _ => rfl
  | rejected _ _ _ _ => rfl

/-- An exchange that was answered is one more completion. -/
theorem completions_of_exchanges {c : Completion} {r' : Run} {request : Request}
    (h : r'.exchanges = r.exchanges ++ [⟨request, some (.ok c)⟩]) :
    r'.completions = r.completions ++ [c] := by
  rw [Run.completions, h, List.filterMap_append]
  rfl

/-- A step is one more completion. -/
theorem StepsTo.completions_eq {c : Completion} {r' : Run} (h : a.StepsTo t d r c r') :
    r'.completions = r.completions ++ [c] :=
  completions_of_exchanges h.exchanges_eq

/-- A way to the end hears one response at most. -/
theorem Closes.completions_eq {report : Run.Report} (h : a.Closes t d r report) :
    report.run.completions = r.completions
      ∨ ∃ c, report.run.completions = r.completions ++ [c] := by
  cases h with
  | late missed => exact .inl ((List.filterMap_append ..).trans (List.append_nil _))
  | failed reply intime => exact .inl ((List.filterMap_append ..).trans (List.append_nil _))
  | tooMany hears asks beyond => exact .inr ⟨_, completions_of_exchanges rfl⟩
  | abandoned hears asks within missed => exact .inr ⟨_, completions_of_exchanges rfl⟩
  | answered hears asks validator => exact .inr ⟨_, completions_of_exchanges rfl⟩
  | accepted hears asks validator verdict => exact .inr ⟨_, completions_of_exchanges rfl⟩
  | gaveUp hears asks validator verdict => exact .inr ⟨_, completions_of_exchanges rfl⟩

/-- A step takes down the id of the response. -/
theorem StepsTo.responseId_eq {c : Completion} (h : a.StepsTo t d r c r') :
    r'.responseId = c.responseId.or r.responseId := by
  cases h with
  | calls _ _ _ _ => rfl
  | rejected _ _ _ _ => rfl

/-! ## What holds of a whole run -/

/-- **What every way keeps, a run keeps.** What holds of a run whenever it goes
on, and of its report whenever it ends, holds of the report of every run. -/
theorem steps_induction {P : Run → Prop} {Q : Run.Report → Prop}
    (hstep : ∀ r c r', P r → a.StepsTo t d r c r' → P r')
    (hclose : ∀ r report, P r → a.Closes t d r report → Q report)
    (hout : ∀ r, P r → Q ⟨.ok .outOfSteps, r⟩) (n : Nat) {r : Run} (h : P r) :
    Q (a.steps t d n r) := by
  induction n generalizing r with
  | zero => exact hout r h
  | succ n ih =>
    rcases stepsTo_or_closes a t d r with ⟨c, r', h'⟩ | ⟨report, h'⟩
    · rw [h'.steps_eq]
      exact ih (hstep r c r' h h')
    · rw [h'.steps_eq]
      exact hclose r report h h'

end Agent

end Colloquy
