import Colloquy.Proofs.Agent.Course
import Colloquy.Proofs.Agent.Ledger
import Colloquy.Proofs.Message.Calls

/-!
# The transcript of a run

The conversation of a run that did not fail is the one it began with,
followed by one segment for each response, in order. What a segment is
depends on nothing but the responses up to it (`Agent.segmentAfter`): how
many calls there were, what the tools answered, and what the validator had
been shown. Nothing else is added, and nothing is moved, changed or taken
away.
-/

namespace Colloquy

open Provider (Completion Exchange)
open Tool (Record)

namespace Agent

variable {a : Agent} {t : Task} {d : Option Nat} {messages : List Message}

/-- **The transcript of a run.** Every response of a run that does not fail
is a completion and adds its segment, and nothing else is added. The calls of
a response can be taken from its segment as they were asked for, and the
records that follow them in the segment answer them one by one. -/
theorem messages_run {e : Run.Ending} (h : (a.run t messages).ending = .ok e) :
    let r := (a.run t messages).run
    r.exchanges.map Exchange.completion? = r.completions.map some
      ∧ r.messages
        = messages
          ++ (r.completions.mapIdx fun i c => a.segmentAfter t (r.completions.take i) c).flatten
      ∧ ∀ i c, r.completions[i]? = some c →
          (Message.assistantWithCalls c.content c.toolCalls).toolCalls = c.toolCalls
            ∧ List.Forall₂ (Record.Answers a.provider.mode) c.toolCalls
              (a.batchAfter t (r.completions.take i) c).records := by
  have haccount := account_runUntil h
  refine ⟨haccount.answered, haccount.messages, fun i c _ => ⟨?_, ?_⟩⟩
  · exact Message.toolCalls_assistantWithCalls _ _
  · exact forall₂_answers_batchAfter a t _ c

/-- The transcript of a run that looks something up and then answers. -/
theorem messages_run_lookingUp :
    let a := Agent.lookingUp .chatCompletions [.lookUp none, { content := "Here it is." }]
    let r := (a.run {} [.user "Where is it?"]).run
    (a.run {} [.user "Where is it?"]).ending = .ok (.answered "Here it is.")
      ∧ r.messages
        = .user "Where is it?" :: (a.segmentAfter {} [] (.lookUp none)
            ++ a.segmentAfter {} [.lookUp none] { content := "Here it is." }) :=
  ⟨rfl, (messages_run rfl).2.1⟩

end Agent

end Colloquy
