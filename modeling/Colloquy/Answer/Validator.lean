import Colloquy.Answer.Contract
import Colloquy.Fence

/-!
# Validating answers

A validator is given one candidate after the other. A candidate that is
JSON, perhaps in a fence, and keeps to the contract is taken. Otherwise
the model is told what is wrong and may try again, until the attempts are
used up.
-/

namespace Colloquy.Answer

/-- **Why a candidate was not taken.** -/
structure Rejection where
  /-- The reason in short. -/
  reason : String
  /-- All that is wrong. -/
  errors : List String
deriving DecidableEq, Repr, Inhabited

/-- The reason given to a candidate that is no JSON. -/
def notJson : String := "response is not valid JSON"

/-- The reason given to a candidate that breaks the contract. -/
def breaksContract : String := "response does not match the required schema"

/-- A value taken as an answer. -/
def accept (v : Json) : Except Rejection Answer :=
  match violations v with
  | [] =>
    match ofJson v with
    | .ok a => .ok a
    | .error m => .error ⟨breaksContract, [m.message]⟩
  | vs => .error ⟨breaksContract, vs.map Violation.message⟩

/-- **A candidate taken as an answer.** -/
def check (candidate : String) : Except Rejection Answer :=
  match Fence.readFenced (Text.trim candidate) with
  | .ok v => accept v
  | .error message => .error ⟨notJson, [s!"parse error: {message}"]⟩

/-- **What the model is told about a rejection.** -/
def Rejection.prompt (r : Rejection) : String :=
  "Your previous reply could not be used: " ++ r.reason ++ ". Problems: "
    ++ "; ".intercalate r.errors
    ++ ". Reply again with only a JSON object of the form "
    ++ "\x7b\"answer\": \x7b\"kind\": \"text\", \"content\": \"...\"\x7d, "
    ++ "\"should_answer_to_user\": true\x7d."

/-- A rejection and the number of its attempt. -/
structure Rejected where
  /-- Which attempt it was. -/
  attempt : Nat
  /-- Why it was not taken. -/
  rejection : Rejection
deriving DecidableEq, Repr, Inhabited

/-- **What a validator says about a candidate.** -/
inductive Verdict where
  /-- The candidate is taken. -/
  | valid (answer : Answer) (attempts : Nat)
  /-- The candidate is not taken, and the model may try again. -/
  | retry (rejection : Rejection) (attempts : Nat)
  /-- The candidate is not taken, and the attempts are used up. -/
  | fail (rejection : Rejection) (attempts : Nat) (history : List Rejected)
deriving Repr, Inhabited

/-- **A validator.** -/
structure Validator where
  /-- How many candidates it looks at before it gives up. -/
  maxAttempts : Nat
  /-- How many candidates it was given. -/
  attempts : Nat := 0
  /-- The candidates that were not taken. -/
  history : List Rejected := []
deriving DecidableEq, Repr, Inhabited

namespace Validator

/-- A fresh validator, which looks at one candidate at least. -/
def ofAttempts (n : Nat) : Validator := { maxAttempts := max n 1 }

/-- The name of the one state a validator is in. -/
def stateName : String := "final_response"

/-- **A candidate is given to a validator.** -/
def receive (w : Validator) (candidate : String) : Validator × Verdict :=
  let attempts := w.attempts + 1
  match check candidate with
  | .ok a => ({ w with attempts }, .valid a attempts)
  | .error rejection =>
    let history := w.history ++ [⟨attempts, rejection⟩]
    ({ w with attempts, history },
      if attempts < w.maxAttempts then .retry rejection attempts
      else .fail rejection attempts history)

end Validator

/-- **What is answered when no candidate was taken.** -/
def fallback : Json :=
  plain "I could not produce a valid structured response in this attempt. Please try again."

end Colloquy.Answer
