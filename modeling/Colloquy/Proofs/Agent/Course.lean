import Colloquy.Proofs.Agent.Step
import Colloquy.Proofs.Tool.Records
import Mathlib.Data.List.Chain

/-!
# The course of a run

The course of a run is the list of the runs that requests were made of, one
after the other: what was asked is what each of them asks
(`requests_runUntil`). Between two of them lies one step (`isChain_course`),
so that what has to be known about two requests in succession is known from
the ways of a step, and the one at a position has heard just as many
completions (`length_completions_of_course`).
-/

namespace Colloquy

open Provider (Completion)

namespace Agent

variable (a : Agent) (t : Task) (d : Option Nat)

/-- **The runs that requests are made of**, in so many steps at most. -/
def stages : Nat → Run → List Run
  | 0, _ => []
  | n + 1, r =>
    r :: match a.step t d r with
      | .step r' => stages n r'
      | .over _ => []

/-- **The course of a run.** -/
def course (messages : List Message) : List Run :=
  a.stages t d a.limits.maxSteps (.start a t messages)

variable {a t d}

/-- After a step the course goes on. -/
theorem StepsTo.stages_eq {r r' : Run} {c : Completion} (h : a.StepsTo t d r c r') (n : Nat) :
    a.stages t d (n + 1) r = r :: a.stages t d n r' := by
  rw [stages, h.step_eq]

/-- After the last step it does not. -/
theorem Closes.stages_eq {r : Run} {report : Run.Report} (h : a.Closes t d r report) (n : Nat) :
    a.stages t d (n + 1) r = [r] := by
  rw [stages, h.step_eq]

/-- The last step makes its request, too. -/
theorem Closes.requests_eq {r : Run} {report : Run.Report} (h : a.Closes t d r report) :
    report.run.requests = r.requests ++ [a.request t r] := by
  cases h <;> exact List.map_append

/-- A step makes its request. -/
theorem StepsTo.requests_eq {r r' : Run} {c : Completion} (h : a.StepsTo t d r c r') :
    r'.requests = r.requests ++ [a.request t r] := by
  rw [Run.requests, h.exchanges_eq]
  exact List.map_append

/-- **What is asked in steps is what the runs on the way ask.** -/
theorem requests_steps (n : Nat) (r : Run) :
    (a.steps t d n r).run.requests = r.requests ++ (a.stages t d n r).map (a.request t) := by
  induction n generalizing r with
  | zero => exact (List.append_nil r.requests).symm
  | succ n ih =>
    rcases stepsTo_or_closes a t d r with ⟨c, r', h⟩ | ⟨report, h⟩
    · rw [h.steps_eq, h.stages_eq, ih, h.requests_eq, List.append_assoc]
      rfl
    · rw [h.steps_eq, h.stages_eq]
      exact h.requests_eq

/-- **What a run asks is what the runs of its course ask.** -/
theorem requests_runUntil (messages : List Message) :
    (a.runUntil d t messages).run.requests = (a.course t d messages).map (a.request t) := by
  rw [runUntil, requests_steps]
  rfl

/-- One step lies between a run and the next one on the way. -/
theorem isChain_stages (n : Nat) (r : Run) :
    (a.stages t d n r).IsChain fun r r' => ∃ c, a.StepsTo t d r c r' := by
  induction n generalizing r with
  | zero => exact .nil
  | succ n ih =>
    rcases stepsTo_or_closes a t d r with ⟨c, r', h⟩ | ⟨report, h⟩
    · rw [h.stages_eq]
      -- the next stage is the first of the rest, unless no steps are left
      cases n with
      | zero => exact .singleton r
      | succ n =>
        have htail := ih r'
        rw [stages] at htail ⊢
        exact .cons_cons ⟨c, h⟩ htail
    · rw [h.stages_eq]
      exact .singleton r

variable {messages : List Message} {r r' : Run}

/-- **One step lies between a run of a course and the next one.** -/
theorem isChain_course :
    (a.course t d messages).IsChain fun r r' => ∃ c, a.StepsTo t d r c r' :=
  isChain_stages _ _

/-- A course begins at the beginning. -/
theorem eq_start_of_course (h : (a.course t d messages)[0]? = some r) :
    r = .start a t messages := by
  unfold course at h
  obtain ⟨n, hn⟩ := Nat.exists_eq_succ_of_ne_zero a.limits.steps_pos.ne'
  rw [hn, stages] at h
  exact (Option.some.inj h).symm

/-- **Every further run of a course comes from the one before it.** -/
theorem exists_stepsTo_of_course {k : Nat} (h : (a.course t d messages)[k + 1]? = some r') :
    ∃ r c, (a.course t d messages)[k]? = some r ∧ a.StepsTo t d r c r' := by
  obtain ⟨hk, hr'⟩ := List.getElem?_eq_some_iff.mp h
  obtain ⟨c, hc⟩ := isChain_course.getElem k hk
  exact ⟨_, c, List.getElem?_eq_getElem (Nat.lt_of_succ_lt hk), hr' ▸ hc⟩

/-- **A run of a course has heard as many completions** as there were runs
before it. -/
theorem length_completions_of_course {k : Nat} (h : (a.course t d messages)[k]? = some r) :
    r.completions.length = k := by
  induction k generalizing r with
  | zero =>
    rw [eq_start_of_course h]
    rfl
  | succ k ih =>
    obtain ⟨r₀, c, hr₀, hc⟩ := exists_stepsTo_of_course h
    rw [hc.completions_eq, List.length_append, ih hr₀]
    rfl

/-- A step adds to the conversation. -/
theorem StepsTo.length_messages_lt {c : Completion} (h : a.StepsTo t d r c r') :
    r.messages.length < r'.messages.length := by
  cases h with
  | calls _ _ _ _ =>
    show _ < (r.messages ++ a.callMessages c _).length
    rw [List.length_append]
    exact Nat.lt_add_of_pos_right (Nat.succ_pos _)
  | rejected _ _ _ _ =>
    show _ < (r.messages ++ [_] ++ [_]).length
    simp only [List.length_append, List.length_singleton]
    omega

/-- **The conversation grows along a course.** -/
theorem length_messages_lt_of_course {i j : Nat} (hi : (a.course t d messages)[i]? = some r)
    (hj : (a.course t d messages)[j]? = some r') (hij : i < j) :
    r.messages.length < r'.messages.length := by
  induction j generalizing r' with
  | zero => exact absurd hij (Nat.not_lt_zero i)
  | succ j ih =>
    obtain ⟨r₀, c, hr₀, hc⟩ := exists_stepsTo_of_course hj
    rcases Nat.lt_succ_iff_lt_or_eq.mp hij with hij | rfl
    · exact (ih hr₀ hij).trans hc.length_messages_lt
    · cases Option.some.inj (hi.symm.trans hr₀)
      exact hc.length_messages_lt

end Agent

/-! ## A small agent

It has one tool, and asks a provider whose replies are written down. -/

/-- An agent that may look things up. -/
def Agent.lookingUp (mode : Provider.Mode) (replies : List Completion) : Agent where
  provider := .ofScript mode 0 { outcomes := replies.map .ok }
  registry := ⟨[.lookUp]⟩
  trust := ⟨["look_up"], false⟩

end Colloquy
