import Colloquy.Turn.Answer

/-!
# The rounds of a turn

What becomes of a turn in a round depends on what the provider replies, and
there is one lemma for each case: a failure fails the turn, a response
without calls is the answer, and calls are executed and lead to the next
round unless that is one too many. A completion is heard in the same way
whether or not a form was asked for (`complete_of_completion`); only a failure
may be a reason to ask again.
-/

namespace Colloquy

open Provider (Completion Item Request)
open Tool (Record Registry)

/-- **A turn that has heard a completion.** -/
def Turn.heard (t : Turn) (request : Request) (c : Completion) : Turn :=
  { t with
    exchanges := t.exchanges ++ [⟨request, some (.ok c)⟩]
    usage := t.usage.add c.usage }

/-- **A turn that has heard of a failure.** -/
def Turn.refused (t : Turn) (request : Request) (f : Provider.Failure) : Turn :=
  { t with exchanges := t.exchanges ++ [⟨request, some (.error f)⟩] }

/-- **A turn after a round**, of which it has heard the response. -/
def Responder.afterRound (b : Responder) (q : Question) (registry : Registry) (t : Turn)
    (c : Completion) : Turn :=
  b.carryOn (t.executed (b.execute q registry t c)) c
    ((b.execute q registry t c).records.map Record.payload)

namespace Responder

variable {b : Responder} {q : Question} {t t' : Turn} {c : Completion} {f : Provider.Failure}
variable {registry : Registry}

/-- A completion is heard. -/
theorem ask_of_completion {request : Request}
    (h : (b.provider.reply t.exchanges.length request).outcome = .ok c) :
    b.ask t request = (t.heard request c, .ok c) := by
  unfold ask
  simp only [h]
  rfl

/-- So is a failure. -/
theorem ask_of_failure {request : Request}
    (h : (b.provider.reply t.exchanges.length request).outcome = .error f) :
    b.ask t request = (t.refused request f, .error f) := by
  unfold ask
  simp only [h]
  rfl

/-- **A completion is the response.** -/
theorem complete_of_completion
    (h : (b.provider.reply t.exchanges.length (b.roundRequest q t)).outcome = .ok c) :
    b.complete q t = (t.heard (b.roundRequest q t) c, .ok c) := by
  unfold complete
  simp only [ask_of_completion h]

/-- **A failure is final**, unless it is the form that the provider cannot
keep to. -/
theorem complete_of_failure (hfinal : (t.schema.isSome && f.rejectsSchema) = false)
    (h : (b.provider.reply t.exchanges.length (b.roundRequest q t)).outcome = .error f) :
    b.complete q t = (t.refused (b.roundRequest q t) f, .error f) := by
  unfold complete
  simp only [ask_of_failure h]
  exact if_neg (ne_true_of_eq_false hfinal)

/-- **A failure fails the turn.** -/
theorem rounds_of_failure (h : b.complete q t = (t', .error f)) (n : Nat) :
    b.rounds q n t = t'.fails f := by
  unfold rounds
  simp only [h]

/-- **A response without calls is the answer.** -/
theorem rounds_of_answer (h : b.complete q t = (t', .ok c)) (hc : c.hasToolCalls = false)
    (n : Nat) : b.rounds q n t = b.finish q t' c := by
  unfold rounds
  simp only [h, hc]
  cases q.offered <;> rfl

/-- **Calls lead to the next round**, unless the guard trips. -/
theorem rounds_of_calls (hq : q.offered = some registry) (h : b.complete q t = (t', .ok c))
    (hc : c.hasToolCalls = true)
    (hguard : (t'.executed (b.execute q registry t' c)).guard.tripped = false) (n : Nat) :
    b.rounds q (n + 1) t = b.rounds q n (b.afterRound q registry t' c) := by
  rw [rounds]
  simp only [h, hq, hc, hguard]
  rfl

/-- Where no tools are on offer, every response is the answer. -/
theorem rounds_of_nothing_offered (hq : q.offered = none) (h : b.complete q t = (t', .ok c))
    (n : Nat) : b.rounds q n t = b.finish q t' c := by
  unfold rounds
  simp only [h, hq]

/-- Calls that repeat what was there before end the turn. -/
theorem rounds_of_repeats (hq : q.offered = some registry) (h : b.complete q t = (t', .ok c))
    (hc : c.hasToolCalls = true)
    (hguard : (t'.executed (b.execute q registry t' c)).guard.tripped = true) (n : Nat) :
    b.rounds q n t = (t'.executed (b.execute q registry t' c)).cutShort c := by
  unfold rounds
  simp only [h, hq, hc, hguard]
  rfl

/-- So do the calls of the last round. -/
theorem rounds_of_last (hq : q.offered = some registry) (h : b.complete q t = (t', .ok c))
    (hc : c.hasToolCalls = true) :
    b.rounds q 0 t = (t'.executed (b.execute q registry t' c)).cutShort c := by
  unfold rounds
  simp only [h, hq, hc]
  exact ite_self _

/-- **A chat provider is told about a round by all that was said.** -/
theorem afterRound_of_chat (hmode : b.provider.mode = .chatCompletions) :
    b.afterRound q registry t c
      = { t.executed (b.execute q registry t c) with
          conversation :=
            t.conversation ++ .message .assistant (.text c.content) c.toolCalls ::
              (b.execute q registry t c).records.map Record.payload } := by
  unfold afterRound carryOn
  rw [hmode]
  rfl

/-- A response that is complete is the whole answer. -/
theorem finish_of_complete (h : c.unfinished? = none) :
    b.finish q t c = t.conclude c.content c.responseId c := by
  unfold finish
  rw [h]

end Responder

end Colloquy
