import Colloquy.Proofs.Tool.Containment

/-!
# Tools that do not sleep

How long a handler sleeps shows in when things happen, and in nothing else. A
tool whose handler does all at once (`Tool.instant`) answers and fails as it did,
and a batch of such tools has the same records and invokes the same tools as it
had and did before; it takes no time at all (`execute_instant`).
-/

namespace Colloquy

/-- **A tool that does not sleep.** -/
def Tool.instant (tool : Tool) : Tool :=
  { tool with handler := fun i => { tool.handler i with sleep := 0 } }

namespace Tool

/-- **Tools that do not sleep.** -/
def Registry.instant (registry : Registry) : Registry := registry.map Tool.instant

/-- An attempt that takes no time. -/
def Attempt.instant (a : Attempt) : Attempt :=
  { a with duration := 0, timeline := a.timeline.map fun e => (0, e.2) }

/-- **A batch without the times of it.** -/
def Batch.timeless (b : Batch) : Batch where
  records := b.records
  invoked := b.invoked

/-- What calls come to is the same where tools do not sleep, but for the times. -/
theorem changes_instant : Changes Tool.instant fun _ => Attempt.instant where
  definition _ := rfl
  handled tool invocation := by
    unfold Tool.instant
    simp only []
    obtain ⟨sleep, ending⟩ := tool.handler invocation
    cases ending <;> rfl
  refused _ _ := rfl
  invoked _ _ := rfl

@[simp] theorem Registry.definitions_instant (registry : Registry) :
    registry.instant.definitions = registry.definitions :=
  changes_instant.definitions_map registry

variable (mode : Provider.Mode) (parallel : Bool) (registry : Registry) (context : Context)
variable (past : List String) (calls : List ToolCall)

/-- **A batch is the same where tools do not sleep**, but for the times. -/
theorem timeless_execute_instant :
    (execute mode parallel registry.instant context past calls).timeless
      = (execute mode parallel registry context past calls).timeless := by
  unfold execute Batch.timeless Registry.instant
  simp only [changes_instant.attempts_map, List.map_map, List.flatMap_map]
  rfl

/-- **It takes no time.** -/
theorem duration_execute_instant :
    (execute mode parallel registry.instant context past calls).duration = 0 := by
  unfold execute Registry.instant
  simp only [changes_instant.attempts_map, List.map_map]
  split
  · show (List.map (fun _ => 0) _).foldl max 0 = 0
    simp only [List.foldl_map, Nat.max_zero, List.foldl_fixed]
  · rw [inTurn_eq_sum, List.map_map]
    show (List.map (fun _ => 0) _).sum = 0
    rw [List.map_const', List.sum_replicate_nat, Nat.mul_zero]

end Tool

end Colloquy
