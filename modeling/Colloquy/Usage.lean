import Colloquy.Json.Basic
import Colloquy.Text.Blank
import Colloquy.Text.Search

/-!
# Token usage

What a provider says about one response – how many tokens it took and
whether it came to its end – and the sums over several responses. A
counter that nobody reported stays unknown, which is not the same as zero;
sums stop at the greatest number of sixty-four bits.
-/

namespace Colloquy

/-- **The usage of one response.** -/
structure Usage where
  /-- All tokens. -/
  total : Option Nat := none
  /-- Tokens of the prompt. -/
  input : Option Nat := none
  /-- Tokens of the answer. -/
  output : Option Nat := none
  /-- Tokens of the prompt that were served from a cache. -/
  cachedInput : Option Nat := none
  /-- Tokens of the answer that were spent on reasoning. -/
  reasoningOutput : Option Nat := none
  /-- How the response ended. -/
  status : Option String := none
  /-- Why it is incomplete. -/
  incompleteReason : Option String := none
deriving DecidableEq, Repr, Inhabited

namespace Usage

/-- The greatest number a counter holds. -/
def greatestCount : Nat := 0xFFFFFFFFFFFFFFFF

/-- A sum that stops at the greatest count. -/
def plus (m n : Nat) : Nat :=
  min (m + n) greatestCount

/-- The sum of two counts, if both are known. -/
def plus? : Option Nat → Option Nat → Option Nat
  | some m, some n => some (plus m n)
  | _, _ => none

/-- Usage with both counts; the total is their sum. -/
def ofCounts (input output : Nat) : Usage :=
  { total := some (plus input output), input := some input, output := some output }

/-- A field of a field. -/
def inner? (v : Json) (outer inner : String) : Option Json :=
  (v.field? outer).bind fun w => w.field? inner

/-- A field that is an unsigned integer. -/
def countAt? (v : Json) (name : String) : Option Nat :=
  (v.field? name).bind Json.nat?

/-- A string that is not empty. -/
def wordOf? (v : Option Json) : Option String :=
  (v.bind Json.string?).filter fun s => !s.isEmpty

/-- The three main counts of a usage block. The total is the reported one,
else the sum of the reported counts of input and output, else the sum of
the counts of prompt and completion. These two are only looked at when the
total is not known without them; then they also stand in for a missing
count of input or output. -/
def mainCounts (block : Json) : Option Nat × Option Nat × Option Nat :=
  let input := countAt? block "input_tokens"
  let output := countAt? block "output_tokens"
  match (countAt? block "total_tokens").or (plus? input output) with
  | some total => (some total, input, output)
  | none =>
    let prompt := countAt? block "prompt_tokens"
    let completion := countAt? block "completion_tokens"
    (plus? prompt completion, input.or prompt, output.or completion)

/-- **The usage in a provider's response.** -/
def ofPayload (payload : Json) : Usage :=
  let status := wordOf? (payload.field? "status")
  let incompleteReason := wordOf? (inner? payload "incomplete_details" "reason")
  match payload.field? "usage" with
  | some (.obj fields) =>
    let block := Json.obj fields
    let (total, input, output) := mainCounts block
    { total, input, output, status, incompleteReason
      cachedInput := (inner? block "input_tokens_details" "cached_tokens").bind Json.nat?
      reasoningOutput :=
        (inner? block "output_tokens_details" "reasoning_tokens").bind Json.nat? }
  | _ => { status, incompleteReason }

/-- Whether a reason for being incomplete is the limit on the length of
the answer. -/
def namesLengthLimit (reason : String) : Bool :=
  Text.mentions reason "max_output"
    || Text.inSmallLetters (Text.trimChars reason.toList) == "max_tokens".toList

/-- **Whether the response was cut off at its length limit**, so that one
more request may bring the rest. -/
def cutOff (u : Usage) : Bool :=
  u.status == some "incomplete" && (u.incompleteReason.map namesLengthLimit).getD false

/-- **The sums over several responses.** -/
structure Sum where
  /-- All tokens. -/
  total : Nat := 0
  /-- Tokens of prompts. -/
  input : Option Nat := none
  /-- Tokens of answers. -/
  output : Option Nat := none
  /-- Tokens of prompts that were served from a cache. -/
  cachedInput : Option Nat := none
  /-- Tokens of answers that were spent on reasoning. -/
  reasoningOutput : Option Nat := none
  /-- How many responses were added. -/
  responses : Nat := 0
deriving DecidableEq, Repr, Inhabited

namespace Sum

/-- A count added to a sum that may not have begun. -/
def addCount (sum count : Option Nat) : Option Nat :=
  match count with
  | none => sum
  | some n => some (plus (sum.getD 0) n)

/-- **Adding a response.** -/
def add (s : Sum) (u : Usage) : Sum where
  total := plus s.total (u.total.getD 0)
  input := addCount s.input u.input
  output := addCount s.output u.output
  cachedInput := addCount s.cachedInput u.cachedInput
  reasoningOutput := addCount s.reasoningOutput u.reasoningOutput
  responses := plus s.responses 1

/-- The total, where anything was spent. -/
def total? (s : Sum) : Option Nat :=
  if 0 < s.total then some s.total else none

/-- The sums over a list of responses. -/
def ofList (us : List Usage) : Sum :=
  us.foldl add {}

end Sum

end Usage

end Colloquy
