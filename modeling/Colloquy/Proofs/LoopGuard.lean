import Colloquy.LoopGuard
import Mathlib.Data.List.Infix

/-!
# What a guard has seen

A guard keeps little of the rounds it has seen: the last signature, how often it
was seen in a row, and what there is to say when a turn is cut short. It is enough
to tell whether the last rounds had one signature (`LoopGuard.lt_repeats_iff`), and
so a guard trips exactly at the third of three equal rounds in a row, whatever came
before them (`LoopGuard.tripped_after_iff`).
-/

namespace Colloquy

open Tool (Record)

namespace LoopGuard

/-- **A guard that has seen rounds.** -/
def after (rounds : List (List Record)) : LoopGuard :=
  rounds.foldl observe {}

variable {rounds : List (List Record)}

theorem after_concat (rounds : List (List Record)) (round : List Record) :
    after (rounds ++ [round]) = (after rounds).observe round := by
  rw [after, List.foldl_append]
  rfl

/-- The last signature is that of the last round. -/
theorem lastSignature_after (rounds : List (List Record)) :
    (after rounds).lastSignature = (rounds.map signature).getLast? := by
  induction rounds using List.reverseRecOn with
  | nil => rfl
  | append_singleton rounds round ih =>
    rw [after_concat, List.map_append, List.map_singleton, List.getLast?_concat]
    rfl

/-- One thing repeated once more is at the end of a list exactly if it comes last,
after the others. -/
theorem replicate_suffix_concat_iff {α : Type} {xs : List α} {x y : α} {n : Nat} :
    List.replicate (n + 1) x <:+ xs ++ [y] ↔ x = y ∧ List.replicate n x <:+ xs := by
  rw [List.replicate_succ', List.suffix_concat_iff]
  constructor
  · rintro (hnil | ⟨ys, heq, hys⟩)
    · exact absurd hnil (by simp)
    · obtain ⟨rfl, hy⟩ := List.append_inj' heq rfl
      exact ⟨(List.singleton_inj).mp hy, hys⟩
  · rintro ⟨rfl, hxs⟩
    exact .inr ⟨_, rfl, hxs⟩

/-- What is repeated at the end of a list comes last. -/
theorem getLast?_of_replicate_suffix {α : Type} {xs : List α} {x : α} {n : Nat}
    (h : List.replicate (n + 1) x <:+ xs) : xs.getLast? = some x := by
  obtain ⟨ys, rfl⟩ := h
  rw [List.replicate_succ', ← List.append_assoc, List.getLast?_concat]

/-- **A guard counts the rounds in a row that have the last signature.** -/
theorem lt_repeats_iff {n : Nat} :
    n < (after rounds).repeats
      ↔ ∃ s, List.replicate (n + 1) s <:+ rounds.map signature := by
  induction rounds using List.reverseRecOn generalizing n with
  | nil =>
    refine iff_of_false (Nat.not_lt_zero n) ?_
    rintro ⟨s, h⟩
    exact absurd (List.suffix_nil.mp h) (by simp)
  | append_singleton rounds round ih =>
    rw [after_concat, List.map_append, List.map_singleton]
    simp only [replicate_suffix_concat_iff, exists_eq_left]
    unfold observe
    simp only [lastSignature_after]
    by_cases hlast : (rounds.map signature).getLast? = some (signature round)
    · rw [if_pos hlast]
      cases n with
      | zero => exact iff_of_true (Nat.succ_pos _) List.nil_suffix
      | succ n =>
        rw [Nat.add_lt_add_iff_right, ih]
        refine ⟨fun ⟨s, h⟩ => ?_, fun h => ⟨_, h⟩⟩
        -- what is repeated is the last signature
        rw [getLast?_of_replicate_suffix h] at hlast
        exact Option.some.inj hlast ▸ h
    · rw [if_neg hlast]
      cases n with
      | zero => exact iff_of_true Nat.one_pos List.nil_suffix
      | succ n =>
        exact iff_of_false (by omega) fun h => hlast (getLast?_of_replicate_suffix h)

/-- **A guard trips at the third of three equal rounds in a row.** -/
theorem tripped_after_iff :
    (after rounds).tripped = true ↔ ∃ s, [s, s, s] <:+ rounds.map signature := by
  unfold tripped
  rw [decide_eq_true_iff]
  exact lt_repeats_iff

/-! ## What is said -/

/-- The tools that were called. -/
theorem toolNames_after (rounds : List (List Record)) :
    (after rounds).toolNames = rounds.flatten.map Record.toolName := by
  induction rounds using List.reverseRecOn with
  | nil => rfl
  | append_singleton rounds round ih =>
    rw [after_concat, List.flatten_concat, List.map_append, ← ih]
    rfl

/-- The last output. -/
theorem lastOutput_after (rounds : List (List Record)) :
    (after rounds).lastOutput = rounds.flatten.getLast?.map output := by
  induction rounds using List.reverseRecOn with
  | nil => rfl
  | append_singleton rounds round ih =>
    rw [after_concat, List.flatten_concat, List.getLast?_append, Option.map_or, ← ih]
    rfl

/-- **What is answered when a turn is cut short**, if any tools were called: which
ones were the last four, and how the last output begins. -/
theorem fallbackText_after {record : Record} (h : rounds.flatten.getLast? = some record) :
    let names := rounds.flatten.map Record.toolName
    let recent := ", ".intercalate (names.drop (names.length - 4))
    let quoted := Text.firstChars 400 (output record)
    (after rounds).fallbackText
      = "I executed tool calls but hit an internal tool-loop safeguard before finalizing. "
          ++ s!"Recent tools: {recent}. Last tool output: {quoted}" := by
  intro names recent quoted
  have hnames : names ≠ [] := by
    intro hnil
    rw [List.map_eq_nil_iff.mp hnil] at h
    cases h
  have hrecent : (after rounds).recentTools = recent := by
    unfold recentTools
    rw [toolNames_after, if_neg fun hempty => hnames (List.isEmpty_iff.mp hempty)]
    rfl
  have hquoted : (after rounds).quotedOutput = quoted := by
    unfold quotedOutput
    rw [lastOutput_after, h]
    rfl
  unfold fallbackText
  rw [hrecent, hquoted]

end LoopGuard

end Colloquy
