import Colloquy.Proofs.Usage
import Mathlib.Data.List.Perm.Basic

/-!
# Counters that nobody reports

A counter that no response reports is to stay unknown, so that it can be told from one that
is zero. Of the five counters of a sum four keep to that: they are unknown exactly as long as
nobody reports them, and then they are what was reported, all in all
(`Usage.Sum.counter_ofList`). The total is kept as a number that begins at zero, and a number
that is zero is not shown. So a total that was reported, and that was zero each time it was,
is shown as unknown (`Usage.Nothing`), and that is the only exception.

The order in which responses are added makes no difference (`Usage.Sum.ofList_perm`).
-/

namespace Colloquy

namespace Usage

/-- **The counters** of a response, and of a sum over responses. -/
inductive Counter where
  /-- All tokens. -/
  | total
  /-- Tokens of prompts. -/
  | input
  /-- Tokens of answers. -/
  | output
  /-- Tokens of prompts that were served from a cache. -/
  | cachedInput
  /-- Tokens of answers that were spent on reasoning. -/
  | reasoningOutput
deriving DecidableEq, Repr

namespace Counter

/-- What a response reports of a counter. -/
def ofUsage (counter : Counter) (u : Usage) : Option Nat :=
  match counter with
  | .total => u.total
  | .input => u.input
  | .output => u.output
  | .cachedInput => u.cachedInput
  | .reasoningOutput => u.reasoningOutput

/-- What a sum shows of a counter. -/
def ofSum (counter : Counter) (s : Sum) : Option Nat :=
  match counter with
  | .total => s.total?
  | .input => s.input
  | .output => s.output
  | .cachedInput => s.cachedInput
  | .reasoningOutput => s.reasoningOutput

end Counter

/-- **Nothing was spent, as far as was reported**: there are responses that report a total,
and it is always zero. -/
structure Nothing (us : List Usage) : Prop where
  /-- Somebody reports a total. -/
  told : ∃ u ∈ us, u.total ≠ none
  /-- Nobody reports one above zero. -/
  zero : ∀ u ∈ us, u.total.getD 0 = 0

variable {us vs : List Usage}

/-! ## What was reported -/

/-- **A counter is unknown** exactly if nobody reports it. -/
theorem reported_eq_none_iff {counts : List (Option Nat)} :
    reported counts = none ↔ ∀ count ∈ counts, count = none := by
  have hnone : counts.reduceOption = [] ↔ ∀ count ∈ counts, count = none := by
    rw [List.reduceOption, List.filterMap_eq_nil_iff]
    rfl
  rw [← hnone]
  unfold reported
  split
  · rename_i h
    exact iff_of_true rfl h
  · rename_i h
    exact iff_of_false nofun h

/-- What was reported adds up to what was spent. -/
theorem sum_reduceOption (us : List Usage) :
    (us.map Usage.total).reduceOption.sum = (us.map fun u => u.total.getD 0).sum := by
  induction us with
  | nil => rfl
  | cons u us ih =>
    rw [List.map_cons, List.map_cons, List.sum_cons, ← ih]
    cases u.total with
    | none => rw [List.reduceOption_cons_of_none, Option.getD_none, Nat.zero_add]
    | some n => rw [List.reduceOption_cons_of_some, List.sum_cons, Option.getD_some]

/-- **A total that was reported is what was spent.** -/
theorem reported_total (us : List Usage) :
    reported (us.map Usage.total)
      = if ∀ u ∈ us, u.total = none then none else some (spent us) := by
  split
  · rename_i h
    exact reported_eq_none_iff.mpr (by simpa using h)
  · rename_i h
    have hne : (us.map Usage.total).reduceOption ≠ [] := by
      intro hnil
      refine h fun u hu => ?_
      have hreported : reported (us.map Usage.total) = none := if_pos hnil
      exact reported_eq_none_iff.mp hreported _ (List.mem_map_of_mem hu)
    unfold reported spent
    rw [if_neg hne, sum_reduceOption]

/-- Nothing was spent exactly if every total that was reported is zero. -/
theorem spent_eq_zero_iff : spent us = 0 ↔ ∀ u ∈ us, u.total.getD 0 = 0 := by
  unfold spent
  rw [Nat.min_eq_zero_iff, or_iff_left (by decide), List.sum_eq_zero_iff_forall_eq_nat]
  simp

namespace Sum

/-! ## What is shown -/

/-- A total that was zero each time it was reported is not shown. -/
theorem total?_of_nothing (h : Nothing us) :
    (ofList us).total? = none ∧ reported (us.map Usage.total) = some 0 := by
  have hspent : spent us = 0 := spent_eq_zero_iff.mpr h.zero
  have hsome : ¬∀ u ∈ us, u.total = none := by
    intro hnone
    obtain ⟨u, hu, htold⟩ := h.told
    exact htold (hnone u hu)
  refine ⟨?_, by rw [reported_total, if_neg hsome, hspent]⟩
  unfold total?
  rw [(counts_ofList us).total, if_neg (by omega)]

/-- **A total is shown as it was reported** exactly if it is not zero, or nobody reported it. -/
theorem total?_ofList_iff :
    (ofList us).total? = reported (us.map Usage.total) ↔ ¬Nothing us := by
  constructor
  · intro hshown hnothing
    obtain ⟨hnone, hzero⟩ := total?_of_nothing hnothing
    rw [hnone, hzero] at hshown
    cases hshown
  · intro hnothing
    unfold total?
    rw [(counts_ofList us).total, reported_total]
    by_cases hspent : spent us = 0
    · -- what was spent is zero because nobody reported any of it
      have hnone : ∀ u ∈ us, u.total = none := by
        intro u hu
        by_contra htold
        exact hnothing ⟨⟨u, hu, htold⟩, spent_eq_zero_iff.mp hspent⟩
      rw [if_neg (by omega), if_pos hnone]
    · have hsome : ¬∀ u ∈ us, u.total = none := by
        intro hnone
        refine hspent (spent_eq_zero_iff.mpr fun u hu => ?_)
        rw [hnone u hu]
        rfl
      rw [if_pos (by omega), if_neg hsome]

/-- **The other counters are shown as they were reported.** -/
theorem ofSum_ofList_of_ne {counter : Counter} (h : counter ≠ .total) :
    counter.ofSum (ofList us) = reported (us.map counter.ofUsage) := by
  have hcounts := counts_ofList us
  cases counter with
  | total => exact absurd rfl h
  | input => exact hcounts.input
  | output => exact hcounts.output
  | cachedInput => exact hcounts.cachedInput
  | reasoningOutput => exact hcounts.reasoningOutput

/-! ## The order of responses -/

/-- Of two numbers that are added it makes no difference which one comes first. -/
theorem plus_right_comm (k m n : Nat) : plus (plus k m) n = plus (plus k n) m := by
  unfold plus greatestCount
  omega

theorem addCount_right_comm (sum count other : Option Nat) :
    addCount (addCount sum count) other = addCount (addCount sum other) count := by
  cases count with
  | none => rfl
  | some m =>
    cases other with
    | none => rfl
    | some n => exact congrArg some (plus_right_comm _ _ _)

/-- **Of two responses it makes no difference which one is added first.** -/
instance : RightCommutative add where
  right_comm s u v := by
    simp only [add, mk.injEq]
    exact ⟨plus_right_comm _ _ _, addCount_right_comm _ _ _, addCount_right_comm _ _ _,
      addCount_right_comm _ _ _, addCount_right_comm _ _ _, trivial⟩

/-- **The order in which responses are added makes no difference**, to none of the counters. -/
theorem ofList_perm (h : us.Perm vs) : ofList us = ofList vs :=
  List.Perm.foldl_eq (f := add) h {}

/-- **What a sum shows of a counter is what was reported**, all in all and in whatever order:
nothing if nobody reported it, and otherwise the sum of what was reported, as far as sixty-four
bits reach. The one exception is a total that was reported, and was zero each time: it is taken
for unknown. -/
theorem counter_ofList (h : us.Perm vs) (counter : Counter) :
    (counter.ofSum (ofList us) = reported (us.map counter.ofUsage)
        ↔ ¬(counter = .total ∧ Nothing us)) ∧
      (reported (us.map counter.ofUsage) = none ↔ ∀ u ∈ us, counter.ofUsage u = none) ∧
      (counter.ofSum (ofList us) ≠ reported (us.map counter.ofUsage) →
        counter.ofSum (ofList us) = none ∧ reported (us.map counter.ofUsage) = some 0) ∧
      counter.ofSum (ofList vs) = counter.ofSum (ofList us) := by
  have hknown : reported (us.map counter.ofUsage) = none ↔ ∀ u ∈ us, counter.ofUsage u = none := by
    rw [reported_eq_none_iff]
    simp
  have horder : counter.ofSum (ofList vs) = counter.ofSum (ofList us) := by
    rw [ofList_perm h]
  by_cases htotal : counter = .total
  · subst htotal
    have hiff : Counter.total.ofSum (ofList us) = reported (us.map Counter.total.ofUsage)
        ↔ ¬Nothing us := total?_ofList_iff
    refine ⟨by simpa using hiff, hknown, fun hne => ?_, horder⟩
    exact total?_of_nothing (not_not.mp (mt hiff.mpr hne))
  · have hshown : counter.ofSum (ofList us) = reported (us.map counter.ofUsage) :=
      ofSum_ofList_of_ne htotal
    exact ⟨iff_of_true hshown fun hnothing => htotal hnothing.1, hknown,
      fun hne => absurd hshown hne, horder⟩

/-- Responses to a prompt of no tokens, to one of as many as can be counted, and to one of a
single token. -/
def extremes : List Usage :=
  [{ input := some 0 }, { input := some (2 ^ 64 - 1), output := some 2 }, { input := some 1 }]

/-- Their prompts come to as much as can be counted, in either order. -/
theorem counter_ofList_extremes :
    extremes.Perm extremes.reverse ∧
      Counter.input.ofSum (ofList extremes) = some (2 ^ 64 - 1) ∧
      Counter.input.ofSum (ofList extremes.reverse) = some (2 ^ 64 - 1) ∧
      Counter.cachedInput.ofSum (ofList extremes) = none := by
  have hperm : extremes.Perm extremes.reverse := (List.reverse_perm extremes).symm
  obtain ⟨hinput, -, -, horder⟩ := counter_ofList hperm .input
  obtain ⟨hcached, hunknown, -⟩ := counter_ofList hperm .cachedInput
  have hshown : Counter.input.ofSum (ofList extremes) = some (2 ^ 64 - 1) :=
    (hinput.mpr (by simp)).trans (by decide)
  exact ⟨hperm, hshown, horder.trans hshown, (hcached.mpr (by simp)).trans (by decide)⟩

/-- **A total of zero is not told from an unknown one.** -/
theorem not_counter_ofList :
    ¬∀ (us : List Usage) (counter : Counter),
      (counter.ofSum (ofList us) = none ↔ ∀ u ∈ us, counter.ofUsage u = none) := by
  intro hcounter
  have htotal := (hcounter [{ total := some 0 }] .total).mp rfl _ List.mem_cons_self
  cases htotal

end Sum

end Usage

end Colloquy
