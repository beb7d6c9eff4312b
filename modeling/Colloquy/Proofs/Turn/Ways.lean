import Colloquy.Proofs.Turn.Rounds

/-!
# What a round can do

A round of a turn asks for the next response, and there are four ways in which
that can go: there is one, there is none, or the form was too much for the
provider and there is one, or none, when it is asked again (`Completes`).
After that the turn goes on with another round (`RoundsTo`) or ends, with a
failure, with an answer or cut short (`Finishes`). What becomes of it also depends
on how many rounds may follow (`Becomes`).

As with the steps of a run, each constructor holds what was tested on the way
and there are no others, so that what holds of a whole turn follows from what
each of them keeps (`rounds_induction`).
-/

namespace Colloquy

open Provider (Completion Outcome Request)
open Tool (Registry)

namespace Responder

variable (b : Responder) (q : Question) (t : Turn)

/-- **The request of a round without a form**, for a provider that cannot keep
to it. -/
def formlessRequest : Request :=
  { b.roundRequest q t with responseSchema := none }

/-- **A turn that gives up its form**, having been refused because of it. -/
def formless (f : Provider.Failure) : Turn :=
  { t.refused (b.roundRequest q t) f with schema := none }

/-- **The ways in which asking for a response can go.** -/
inductive Completes : Turn → Outcome → Prop
  /-- There is a response. -/
  | heard {c : Completion}
      (reply : (b.provider.reply t.exchanges.length (b.roundRequest q t)).outcome = .ok c) :
      Completes (t.heard (b.roundRequest q t) c) (.ok c)
  /-- There is none. -/
  | refused {f : Provider.Failure}
      (reply : (b.provider.reply t.exchanges.length (b.roundRequest q t)).outcome = .error f)
      (final : (t.schema.isSome && f.rejectsSchema) = false) :
      Completes (t.refused (b.roundRequest q t) f) (.error f)
  /-- There is one without a form. -/
  | heardFormless {f : Provider.Failure} {c : Completion}
      (reply : (b.provider.reply t.exchanges.length (b.roundRequest q t)).outcome = .error f)
      (rejects : (t.schema.isSome && f.rejectsSchema) = true)
      (again : (b.provider.reply (b.formless q t f).exchanges.length
        (b.formlessRequest q t)).outcome = .ok c) :
      Completes ((b.formless q t f).heard (b.formlessRequest q t) c) (.ok c)
  /-- There is none without a form either. -/
  | refusedFormless {f g : Provider.Failure}
      (reply : (b.provider.reply t.exchanges.length (b.roundRequest q t)).outcome = .error f)
      (rejects : (t.schema.isSome && f.rejectsSchema) = true)
      (again : (b.provider.reply (b.formless q t f).exchanges.length
        (b.formlessRequest q t)).outcome = .error g) :
      Completes ((b.formless q t f).refused (b.formlessRequest q t) g) (.error g)

/-- **The way to another round.** -/
inductive RoundsTo : Turn → Prop
  /-- Calls were executed, and do not repeat what was there before. -/
  | calls {registry : Registry} {t' : Turn} {c : Completion} (offered : q.offered = some registry)
      (completes : b.Completes q t t' (.ok c)) (asks : c.hasToolCalls = true)
      (guard : (t'.executed (b.execute q registry t' c)).guard.tripped = false) :
      RoundsTo (b.afterRound q registry t' c)

/-- **The ways to the end.** -/
inductive Finishes : Turn.Report → Prop
  /-- There is no response. -/
  | failed {t' : Turn} {f : Provider.Failure} (completes : b.Completes q t t' (.error f)) :
      Finishes (t'.fails f)
  /-- The response is the answer. -/
  | answered {t' : Turn} {c : Completion} (completes : b.Completes q t t' (.ok c))
      (answers : q.offered = none ∨ c.hasToolCalls = false) :
      Finishes (b.finish q t' c)
  /-- Calls were executed, but repeat what was there before, or the rounds are
  used up. -/
  | cutShort {registry : Registry} {t' : Turn} {c : Completion}
      (offered : q.offered = some registry) (completes : b.Completes q t t' (.ok c))
      (asks : c.hasToolCalls = true) :
      Finishes ((t'.executed (b.execute q registry t' c)).cutShort c)

/-- **What becomes of a turn in a round** that so many others may follow. -/
inductive Becomes : Nat → Turn.Report → Prop
  /-- There is no response. -/
  | failed {n : Nat} {t' : Turn} {f : Provider.Failure}
      (completes : b.Completes q t t' (.error f)) :
      Becomes n (t'.fails f)
  /-- The response is the answer. -/
  | answered {n : Nat} {t' : Turn} {c : Completion} (completes : b.Completes q t t' (.ok c))
      (answers : q.offered = none ∨ c.hasToolCalls = false) :
      Becomes n (b.finish q t' c)
  /-- The calls that were executed repeat what was there before, or the rounds are
  used up. -/
  | cutShort {n : Nat} {registry : Registry} {t' : Turn} {c : Completion}
      (offered : q.offered = some registry) (completes : b.Completes q t t' (.ok c))
      (asks : c.hasToolCalls = true)
      (reason : (t'.executed (b.execute q registry t' c)).guard.tripped = true ∨ n = 0) :
      Becomes n ((t'.executed (b.execute q registry t' c)).cutShort c)
  /-- Another round follows. -/
  | goesOn {n : Nat} {registry : Registry} {t' : Turn} {c : Completion}
      (offered : q.offered = some registry) (completes : b.Completes q t t' (.ok c))
      (asks : c.hasToolCalls = true)
      (guard : (t'.executed (b.execute q registry t' c)).guard.tripped = false) :
      Becomes (n + 1) (b.rounds q n (b.afterRound q registry t' c))

variable {b q t} {t' : Turn} {f : Provider.Failure} {c : Completion}

/-- **Asking for a response goes one of these ways.** -/
theorem completes_complete (b : Responder) (q : Question) (t : Turn) :
    b.Completes q t (b.complete q t).1 (b.complete q t).2 := by
  cases hreply : (b.provider.reply t.exchanges.length (b.roundRequest q t)).outcome with
  | ok c =>
    rw [complete_of_completion hreply]
    exact .heard hreply
  | error f =>
    cases hrejects : t.schema.isSome && f.rejectsSchema with
    | false =>
      rw [complete_of_failure hrejects hreply]
      exact .refused hreply hrejects
    | true =>
      have hcomplete : b.complete q t = b.ask (b.formless q t f) (b.formlessRequest q t) := by
        unfold complete
        simp only [ask_of_failure hreply]
        exact if_pos hrejects
      rw [hcomplete]
      cases hagain : (b.provider.reply (b.formless q t f).exchanges.length
          (b.formlessRequest q t)).outcome with
      | ok c =>
        rw [ask_of_completion hagain]
        exact .heardFormless hreply hrejects hagain
      | error g =>
        rw [ask_of_failure hagain]
        exact .refusedFormless hreply hrejects hagain

/-- **A round goes one of these ways.** -/
theorem becomes_rounds (b : Responder) (q : Question) (n : Nat) (t : Turn) :
    b.Becomes q t n (b.rounds q n t) := by
  have hcompletes := completes_complete b q t
  obtain ⟨⟨t', outcome⟩, hcomplete⟩ : ∃ p, b.complete q t = p := ⟨_, rfl⟩
  rw [hcomplete] at hcompletes
  cases outcome with
  | error f =>
    rw [rounds_of_failure hcomplete]
    exact .failed hcompletes
  | ok c =>
    cases hasks : c.hasToolCalls with
    | false =>
      rw [rounds_of_answer hcomplete hasks]
      exact .answered hcompletes (.inr hasks)
    | true =>
      cases hoffered : q.offered with
      | none =>
        rw [rounds_of_nothing_offered hoffered hcomplete]
        exact .answered hcompletes (.inl hoffered)
      | some registry =>
        cases hguard : (t'.executed (b.execute q registry t' c)).guard.tripped with
        | true =>
          rw [rounds_of_repeats hoffered hcomplete hasks hguard]
          exact .cutShort hoffered hcompletes hasks (.inl hguard)
        | false =>
          cases n with
          | zero =>
            rw [rounds_of_last hoffered hcomplete hasks]
            exact .cutShort hoffered hcompletes hasks (.inr rfl)
          | succ n =>
            rw [rounds_of_calls hoffered hcomplete hasks hguard]
            exact .goesOn hoffered hcompletes hasks hguard

/-- **A round goes on or comes to an end**, and a round that goes on had
another one before it. -/
theorem rounds_cases (b : Responder) (q : Question) (n : Nat) (t : Turn) :
    (∃ m t', n = m + 1 ∧ b.RoundsTo q t t' ∧ b.rounds q n t = b.rounds q m t')
      ∨ b.Finishes q t (b.rounds q n t) := by
  have h := becomes_rounds b q n t
  generalize b.rounds q n t = report at h ⊢
  cases h with
  | failed completes => exact .inr (.failed completes)
  | answered completes answers => exact .inr (.answered completes answers)
  | cutShort offered completes asks reason => exact .inr (.cutShort offered completes asks)
  | goesOn offered completes asks guard =>
    exact .inl ⟨_, _, rfl, .calls offered completes asks guard, rfl⟩

/-- **What every round keeps, a turn keeps.** What holds of a turn whenever it
goes on, and of its report whenever it ends, holds of the report of every
turn. -/
theorem rounds_induction {P : Turn → Prop} {Q : Turn.Report → Prop}
    (hround : ∀ t t', P t → b.RoundsTo q t t' → P t')
    (hfinish : ∀ t report, P t → b.Finishes q t report → Q report) (n : Nat) {t : Turn} (h : P t) :
    Q (b.rounds q n t) := by
  induction n generalizing t with
  | zero =>
    rcases rounds_cases b q 0 t with ⟨m, t', hm, -⟩ | hends
    · exact absurd hm (Nat.succ_ne_zero m).symm
    · exact hfinish t _ h hends
  | succ n ih =>
    rcases rounds_cases b q (n + 1) t with ⟨m, t', hm, hround', heq⟩ | hends
    · cases Nat.succ.inj hm
      rw [heq]
      exact ih (hround t t' h hround')
    · exact hfinish t _ h hends

/-- **An answer is complete, or its rest is asked for.** The rest is there, or
the turn fails. -/
theorem finish_cases (b : Responder) (q : Question) (t : Turn) (c : Completion) :
    (c.unfinished? = none ∧ b.finish q t c = t.conclude c.content c.responseId c)
      ∨ ∃ id, c.unfinished? = some id ∧
        ((∃ rest, (b.provider.reply t.exchanges.length (b.continuationRequest q t id)).outcome
              = .ok rest
            ∧ b.finish q t c
              = (t.heard (b.continuationRequest q t id) rest).conclude (c.content ++ rest.content)
                (rest.responseId.or (some id)) rest)
          ∨ ∃ f, (b.provider.reply t.exchanges.length (b.continuationRequest q t id)).outcome
              = .error f
            ∧ b.finish q t c = (t.refused (b.continuationRequest q t id) f).fails f) := by
  cases hrest : c.unfinished? with
  | none => exact .inl ⟨rfl, finish_of_complete hrest⟩
  | some id =>
    refine .inr ⟨id, rfl, ?_⟩
    unfold finish
    cases hreply : (b.provider.reply t.exchanges.length (b.continuationRequest q t id)).outcome with
    | ok rest =>
      refine .inl ⟨rest, rfl, ?_⟩
      simp only [hrest, ask_of_completion hreply]
    | error f =>
      refine .inr ⟨f, rfl, ?_⟩
      simp only [hrest, ask_of_failure hreply]

end Responder

end Colloquy
