import Colloquy.Provider.Completion

/-!
# Exchanges

One request and what came of it. Runs and turns keep a list of their
exchanges, in order.
-/

namespace Colloquy.Provider

/-- **A request and what came of it.** -/
structure Exchange where
  /-- What the provider was asked. -/
  request : Request
  /-- What it answered, unless the answer was not waited for. -/
  outcome : Option Outcome

/-- The completion, if the request was answered with one. -/
def Exchange.completion? (e : Exchange) : Option Completion :=
  match e.outcome with
  | some (.ok c) => some c
  | _ => none

end Colloquy.Provider
