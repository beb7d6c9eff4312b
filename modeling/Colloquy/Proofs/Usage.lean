import Colloquy.Usage
import Mathlib.Algebra.GroupWithZero.Nat
import Mathlib.Data.List.Induction
import Mathlib.Data.List.ReduceOption

/-!
# What sums of usage say

Sums stop at the greatest number of sixty-four bits, and they are taken one
response at a time. Stopping on the way makes no difference: a sum that has
reached its end stays there, so that adding up step by step is the same as
adding everything up and stopping once (`Usage.Sum.counts_ofList`).

The total begins at zero and the other counters begin unknown. A response that
does not report a counter leaves it as it is, and so a counter stays unknown
exactly as long as nobody reports it.
-/

namespace Colloquy

namespace Usage

/-- **What was reported of a counter**, all in all: nothing if it never was,
otherwise the sum of what was, as far as sixty-four bits reach. -/
def reported (counts : List (Option Nat)) : Option Nat :=
  if counts.reduceOption = [] then none else some (min counts.reduceOption.sum (2 ^ 64 - 1))

/-- **The total of responses**, as far as sixty-four bits reach. A response that
reports none counts for nothing. -/
def spent (us : List Usage) : Nat :=
  min (us.map fun u => u.total.getD 0).sum (2 ^ 64 - 1)

namespace Sum

/-- **Sums are those of responses.** -/
structure Counts (s : Sum) (us : List Usage) : Prop where
  /-- All tokens. -/
  total : s.total = spent us
  /-- What is shown of them, where nothing shown means zero. -/
  shown : s.total?.getD 0 = spent us
  /-- Tokens of prompts. -/
  input : s.input = reported (us.map Usage.input)
  /-- Tokens of answers. -/
  output : s.output = reported (us.map Usage.output)
  /-- Tokens of prompts that were served from a cache. -/
  cachedInput : s.cachedInput = reported (us.map Usage.cachedInput)
  /-- Tokens of answers that were spent on reasoning. -/
  reasoningOutput : s.reasoningOutput = reported (us.map Usage.reasoningOutput)

/-- A total that is not shown is zero. -/
@[simp] theorem getD_total? (s : Sum) : s.total?.getD 0 = s.total := by
  unfold total?
  split
  · rfl
  · rename_i h
    exact (Nat.eq_zero_of_not_pos h).symm

/-- **A sum that has stopped is added to as if it had not.** -/
theorem plus_min (m n : Nat) :
    plus (min m (2 ^ 64 - 1)) n = min (m + n) (2 ^ 64 - 1) := by
  unfold plus greatestCount
  omega

/-- One response more adds its total. -/
theorem spent_concat (us : List Usage) (u : Usage) :
    spent (us ++ [u]) = plus (spent us) (u.total.getD 0) := by
  unfold spent
  rw [plus_min, List.map_append, List.sum_append]
  simp

/-- **One response more adds what it reports of a counter**, and leaves it as it is
if it reports nothing. -/
theorem reported_concat (counts : List (Option Nat)) (count : Option Nat) :
    reported (counts ++ [count]) = addCount (reported counts) count := by
  unfold reported
  rw [List.reduceOption_append]
  cases count with
  | none => simp [addCount, List.reduceOption]
  | some n =>
    by_cases h : counts.reduceOption = []
    · simp [addCount, h, plus, greatestCount]
    · have hne : counts.reduceOption ++ [some n].reduceOption ≠ [] := by simp [h]
      rw [if_neg hne, if_neg h, List.sum_append]
      exact congrArg some (plus_min counts.reduceOption.sum n).symm

/-- **Sums taken one response at a time are the sums of all of them.** -/
theorem counts_ofList (us : List Usage) : (ofList us).Counts us := by
  induction us using List.reverseRecOn with
  | nil => exact ⟨rfl, rfl, rfl, rfl, rfl, rfl⟩
  | append_singleton us u ih =>
    have hadd : ofList (us ++ [u]) = (ofList us).add u := by
      rw [ofList, List.foldl_append]
      rfl
    have htotal : ((ofList us).add u).total = spent (us ++ [u]) := by
      rw [spent_concat, ← ih.total]
      rfl
    have hcounter (counter : Usage → Option Nat) :
        reported ((us ++ [u]).map counter) = addCount (reported (us.map counter)) (counter u) := by
      rw [List.map_append]
      exact reported_concat _ _
    rw [hadd]
    exact {
      total := htotal
      shown := (getD_total? _).trans htotal
      input := by rw [hcounter, ← ih.input]; rfl
      output := by rw [hcounter, ← ih.output]; rfl
      cachedInput := by rw [hcounter, ← ih.cachedInput]; rfl
      reasoningOutput := by rw [hcounter, ← ih.reasoningOutput]; rfl }

end Sum

end Usage

end Colloquy
