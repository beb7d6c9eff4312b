import Colloquy.Proofs.Agent.Course
import Colloquy.Proofs.Agent.Ledger
import Colloquy.Proofs.Turn.Thread
import Colloquy.Proofs.Usage

/-!
# Every response is counted once

Runs and turns take tokens down in several places, and end in many ways. What they
have in common is a list of exchanges and a sum. These are in order if the exchanges
hold what the provider replied to each request and the sum is that of the
completions among them (`Books`). There are only two ways for them to change: a
completion is heard and counted at once (`Books.heard`), or a failure is heard and
nothing is counted (`Books.refused`). So it does not matter by which way a run or a
turn ends: whatever was heard up to then has been counted, and nothing else
(`books_run_answer`).
-/

namespace Colloquy

open Provider (Completion Exchange Outcome Request)
open Turn (responses)

/-- **A provider has replied to exchanges**, to each with what it says to such a
request at its position. -/
def Provider.Replied (p : Provider) (exchanges : List Exchange) : Prop :=
  ∀ earlier e, earlier ++ [e] <+: exchanges →
    e.outcome = some (p.reply earlier.length e.request).outcome

/-- **The books are in order**: the exchanges are those with the provider, and the
sum is that of the responses among them. -/
structure Books (p : Provider) (exchanges : List Exchange) (usage : Usage.Sum) : Prop where
  /-- The provider has replied to each request. -/
  replied : p.Replied exchanges
  /-- Its responses were added up. -/
  counted : usage = .ofList ((responses exchanges).map Completion.usage)

variable {p : Provider} {exchanges : List Exchange} {usage : Usage.Sum}

/-- A provider that replies once more has replied to all. -/
theorem Provider.Replied.concat (h : p.Replied exchanges) {e : Exchange}
    (he : e.outcome = some (p.reply exchanges.length e.request).outcome) :
    p.Replied (exchanges ++ [e]) := by
  intro earlier e' hbefore
  rcases List.prefix_concat_iff.mp hbefore with heq | hbefore
  · obtain ⟨rfl, hlast⟩ := List.append_inj' heq rfl
    cases hlast
    exact he
  · exact h earlier e' hbefore

namespace Books

/-- There is nothing in the books at first. -/
theorem nil (p : Provider) : Books p [] {} where
  replied _ _ h := absurd (List.prefix_nil.mp h) (by simp)
  counted := rfl

/-- **A completion is counted when it is heard.** -/
theorem heard (h : Books p exchanges usage) {request : Request} {c : Completion}
    (hreply : (p.reply exchanges.length request).outcome = .ok c) :
    Books p (exchanges ++ [⟨request, some (.ok c)⟩]) (usage.add c.usage) where
  replied := h.replied.concat (hreply ▸ rfl)
  counted := by
    rw [Responder.responses_concat, List.map_append, h.counted, Usage.Sum.ofList,
      Usage.Sum.ofList, List.foldl_append]
    rfl

/-- **A failure is not counted.** -/
theorem refused (h : Books p exchanges usage) {request : Request} {f : Provider.Failure}
    (hreply : (p.reply exchanges.length request).outcome = .error f) :
    Books p (exchanges ++ [⟨request, some (.error f)⟩]) usage where
  replied := h.replied.concat (hreply ▸ rfl)
  counted := by
    rw [Responder.responses_concat, h.counted]
    exact congrArg (fun cs => Usage.Sum.ofList (cs.map Completion.usage)) (List.append_nil _).symm

/-- **What is in the books is the sum of the responses.** -/
theorem counts (h : Books p exchanges usage) :
    usage.Counts ((responses exchanges).map Completion.usage) :=
  h.counted ▸ Usage.Sum.counts_ofList _

end Books

/-! ## Runs -/

namespace Agent

variable {a : Agent} {t : Task} {d : Option Nat} {messages : List Message} {r r' : Run}

/-- A step keeps the books in order. -/
theorem StepsTo.books {c : Completion} (h : a.StepsTo t d r c r')
    (hr : Books a.provider r.exchanges r.usage) : Books a.provider r'.exchanges r'.usage := by
  cases h with
  | calls hears asks within intime => exact hr.heard hears.reply
  | rejected hears asks validator verdict => exact hr.heard hears.reply

/-- **So does every end without a failure.** -/
theorem Closes.books {report : Run.Report} (h : a.Closes t d r report)
    (hr : Books a.provider r.exchanges r.usage) {e : Run.Ending} (hok : report.ending = .ok e) :
    Books a.provider report.run.exchanges report.run.usage := by
  cases h with
  | late missed => cases hok
  | failed reply intime => cases hok
  | abandoned hears asks within missed => cases hok
  | tooMany hears asks beyond => exact hr.heard hears.reply
  | answered hears asks validator => exact hr.heard hears.reply
  | accepted hears asks validator verdict => exact hr.heard hears.reply
  | gaveUp hears asks validator verdict => exact hr.heard hears.reply

/-- **The books of a run that does not fail are in order.** -/
theorem books_runUntil {e : Run.Ending} (h : (a.runUntil d t messages).ending = .ok e) :
    Books a.provider (a.runUntil d t messages).run.exchanges
      (a.runUntil d t messages).run.usage := by
  revert h
  exact steps_induction (P := fun r => Books a.provider r.exchanges r.usage)
    (Q := fun report => report.ending = .ok e →
      Books a.provider report.run.exchanges report.run.usage)
    (fun _ _ _ hr hstep => hstep.books hr) (fun _ _ hr hclose hok => hclose.books hr hok)
    (fun _ hr _ => hr) _ (.nil a.provider)

end Agent

/-! ## Turns -/

namespace Responder

variable {b : Responder} {q : Question} {t t' : Turn} {outcome : Outcome}

@[simp] theorem usage_carryOn (b : Responder) (t : Turn) (c : Completion)
    (outputs : List Provider.Item) : (b.carryOn t c outputs).usage = t.usage := by
  unfold Responder.carryOn
  split <;> rfl

/-- **Asking for a response keeps the books in order**, whether or not it is asked
for again. -/
theorem Completes.books (h : b.Completes q t t' outcome)
    (ht : Books b.provider t.exchanges t.usage) : Books b.provider t'.exchanges t'.usage := by
  cases h with
  | heard reply => exact ht.heard reply
  | refused reply final => exact ht.refused reply
  | heardFormless reply rejects again => exact (ht.refused reply).heard again
  | refusedFormless reply rejects again => exact (ht.refused reply).refused again

/-- So does a round. -/
theorem RoundsTo.books (h : b.RoundsTo q t t') (ht : Books b.provider t.exchanges t.usage) :
    Books b.provider t'.exchanges t'.usage := by
  cases h with
  | calls offered completes asks guard =>
    unfold afterRound
    rw [exchanges_carryOn, usage_carryOn]
    exact completes.books ht

/-- **So does every end**, and the sum that is told is that of the books. -/
theorem Finishes.books {report : Turn.Report} (h : b.Finishes q t report)
    (ht : Books b.provider t.exchanges t.usage) :
    Books b.provider report.turn.exchanges report.turn.usage
      ∧ ∀ g, report.outcome = .ok g → g.usage = report.turn.usage := by
  cases h with
  | @failed t' f completes => exact ⟨completes.books ht, fun g hg => by cases hg⟩
  | @cutShort registry t' c offered completes asks =>
    exact ⟨completes.books ht, fun g hg => by cases hg; rfl⟩
  | @answered t' c completes answers =>
    have ht' := completes.books ht
    rcases finish_cases b q t' c with ⟨-, heq⟩ | ⟨id, -, ⟨rest, hreply, heq⟩ | ⟨f, hreply, heq⟩⟩
    · exact heq ▸ ⟨ht', fun g hg => by cases hg; rfl⟩
    · exact heq ▸ ⟨ht'.heard hreply, fun g hg => by cases hg; rfl⟩
    · exact heq ▸ ⟨ht'.refused hreply, fun g hg => by cases hg⟩

/-- **The books of a turn are in order.** -/
theorem books_answer (b : Responder) (q : Question) :
    let report := b.answer q
    Books b.provider report.turn.exchanges report.turn.usage
      ∧ ∀ g, report.outcome = .ok g → g.usage = report.turn.usage :=
  rounds_induction (P := fun t => Books b.provider t.exchanges t.usage)
    (Q := fun report => Books b.provider report.turn.exchanges report.turn.usage
      ∧ ∀ g, report.outcome = .ok g → g.usage = report.turn.usage)
    (fun _ _ ht hround => hround.books ht) (fun _ _ ht hfinish => hfinish.books ht) _
    (.nil b.provider)

end Responder

/-- **Every response is counted once.** Whichever way a run ends, if it does not fail,
its tokens are those of all the completions its provider replied with, up to what
sixty-four bits hold; and so are those of a turn that does not fail, with each counter
unknown exactly if no completion reported it. Failed requests count for nothing. -/
theorem books_run_answer :
    (∀ (a : Agent) (t : Task) (messages : List Message) (payload : Json),
        let report := a.run t messages
        report.payload = .ok payload →
          a.provider.Replied report.run.exchanges
            ∧ report.run.usage.Counts (report.run.completions.map Completion.usage))
      ∧ ∀ (b : Responder) (q : Question) (g : Generation),
          let report := b.answer q
          report.outcome = .ok g →
            b.provider.Replied report.turn.exchanges
              ∧ g.usage.Counts ((responses report.turn.exchanges).map Completion.usage) := by
  refine ⟨?_, ?_⟩
  · intro a t messages payload report h
    obtain ⟨e, he, -⟩ := Run.Report.payload_eq_ok_iff.mp h
    have hbooks : Books a.provider report.run.exchanges report.run.usage := Agent.books_runUntil he
    exact ⟨hbooks.replied, hbooks.counts⟩
  · intro b q g report h
    obtain ⟨hbooks, htold⟩ := Responder.books_answer b q
    exact ⟨hbooks.replied, htold g h ▸ hbooks.counts⟩

/-- What has not failed has come to something. -/
theorem exists_eq_ok_of_isOk {ε α : Type} {x : Except ε α} (h : x.isOk = true) :
    ∃ a, x = .ok a := by
  cases x with
  | ok a => exact ⟨a, rfl⟩
  | error f => simp [Except.isOk, Except.toBool] at h

/-- The books of a run and of a turn that look something up. A total stops at its
greatest number, a request that fails counts for nothing, and a counter that nobody
reports stays unknown. -/
theorem books_run_answer_lookingUp :
    let first : Completion :=
      { Completion.lookUp none with usage := { total := some (2 ^ 64 - 2), input := some 3 } }
    let last : Completion := { content := "Here.", usage := { total := some 5, input := some 4 } }
    let a := Agent.lookingUp .chatCompletions [first, last]
    let b := Responder.hearing .responses [.error ⟨.schemaUnsupported, "No."⟩, .ok first, .ok last]
    let run := (a.run {} [.user "Where is it?"]).run
    let outcome := (b.answer (.whereIsIt (some (.obj [])))).outcome
    run.usage.total = 2 ^ 64 - 1
      ∧ ∃ g, outcome = .ok g ∧ g.usage.total = 2 ^ 64 - 1 ∧ g.usage.input = some 7
          ∧ g.usage.output = none := by
  intro first last a b run outcome
  have hrun := (books_run_answer.1 a {} [.user "Where is it?"] (.str "Here.") rfl).2
  obtain ⟨g, hg⟩ : ∃ g, outcome = .ok g := exists_eq_ok_of_isOk (by decide +kernel)
  have hturn := (books_run_answer.2 b (.whereIsIt (some (.obj []))) g hg).2
  exact ⟨hrun.total.trans (by decide +kernel), g, hg, hturn.total.trans (by decide +kernel),
    hturn.input.trans (by decide +kernel), hturn.output.trans (by decide +kernel)⟩

end Colloquy
