import Colloquy.Agent.Step

/-!
# Running an agent

A run is steps until one of them is the last. The number of steps is
limited, so every run ends.
-/

namespace Colloquy.Agent

/-- **At most so many steps.** -/
def steps (a : Agent) (t : Task) (deadline : Option Nat) : Nat → Run → Run.Report
  | 0, r => ⟨.ok .outOfSteps, r⟩
  | n + 1, r =>
    match a.step t deadline r with
    | .step r => steps a t deadline n r
    | .over report => report

/-- **A run with a deadline of its own, or none.** -/
def runUntil (a : Agent) (deadline : Option Nat) (t : Task) (messages : List Message) :
    Run.Report :=
  a.steps t deadline a.limits.maxSteps (.start a t messages)

/-- **A run.** -/
def run (a : Agent) (t : Task) (messages : List Message) : Run.Report :=
  a.runUntil (some a.limits.deadline) t messages

end Colloquy.Agent
