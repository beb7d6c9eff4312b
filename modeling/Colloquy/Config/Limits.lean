import Colloquy.Config.Basic
import Colloquy.Failure

/-!
# The limits of a run

How many requests a run may make, how many tool calls, and how long it may
take. None of them is zero.
-/

namespace Colloquy

/-- **The limits of a run.** -/
structure Limits where
  /-- How many requests it may make. -/
  maxSteps : Nat
  /-- How many tool calls there may be. -/
  maxToolCalls : Nat
  /-- How many seconds it may take. -/
  timeoutSecs : Nat
  /-- At least one request. -/
  steps_pos : 0 < maxSteps
  /-- At least one tool call. -/
  calls_pos : 0 < maxToolCalls
  /-- Some time. -/
  timeout_pos : 0 < timeoutSecs
deriving DecidableEq, Repr

namespace Limits

/-- **Limits from three numbers**, if none of them is zero. -/
def make (maxSteps maxToolCalls timeoutSecs : Nat) : Except Failure Limits :=
  if h₁ : 0 < maxSteps then
    if h₂ : 0 < maxToolCalls then
      if h₃ : 0 < timeoutSecs then .ok ⟨maxSteps, maxToolCalls, timeoutSecs, h₁, h₂, h₃⟩
      else .error (.config "timeout_seconds must be greater than 0")
    else .error (.config "max_tool_calls must be at least 1")
  else .error (.config "max_steps must be at least 1")

/-- The greatest number of tool calls. -/
def greatestCalls : Nat := 0xFFFFFFFF

/-- How many tool calls there may always be. -/
def leastCalls : Nat := 12

/-- **The limits a configuration sets**: two tool calls a request, but
never fewer than twelve, and never less time than the least. -/
def ofSettings (s : RuntimeSettings) : Except Failure Limits :=
  make s.maxToolIterations (max (min (2 * s.maxToolIterations) greatestCalls) leastCalls)
    (max s.timeoutSecs s.minTimeoutSecs)

/-- The limits when nothing is set. -/
def standard : Limits := ⟨8, 12, 60, by decide, by decide, by decide⟩

/-- How many milliseconds a run may take. -/
def deadline (l : Limits) : Nat := l.timeoutSecs * 1000

end Limits

end Colloquy
