import Colloquy.Proofs.Agent.Course
import Colloquy.Proofs.Rendering

/-!
# What a chat provider is sent grows

A chat provider is sent the whole conversation each time, made anew from
the messages. A turn, in contrast, adds to what it has sent before. Here the
two are shown to come to the same: each request repeats the one before it and
adds what has happened since – the response and its calls as they were asked
for, the outputs as the records hold them and what tools may add, or the
rejected candidate and what is wrong with it (`Agent.Grows`).

Instructions grow beside that. They stand above the conversation and are
made from the conversation as it is when the request is made, so that what a
tool adds to them is in the very next request.
-/

namespace Colloquy

open Provider (Completion Item)

namespace Agent

variable (a : Agent) (t : Task)

variable {a t} {d : Option Nat} {messages : List Message} {r r' : Run}

/-- A chat provider is sent the whole conversation. -/
theorem outgoing_of_chat (hmode : a.provider.mode = .chatCompletions) (r : Run) :
    a.outgoing r = a.renderer.items r.messages := by
  unfold outgoing
  rw [hmode]

/-- **Executed calls are sent as they were asked for**, with the payloads of
their records and what tools may add. -/
theorem items_callMessages (hmode : a.provider.mode = .chatCompletions) (r : Run)
    (c : Completion) :
    a.renderer.items (a.callMessages c (a.execute t r c))
      = .message .assistant (.text c.content) c.toolCalls ::
          (a.execute t r c).records.flatMap a.recordItems := by
  unfold callMessages
  rw [Renderer.items_assistantWithCalls_cons, Renderer.items_flatMap]
  refine congrArg (_ :: ·) (List.flatMap_congr fun record hrecord => ?_)
  rw [recordMessages, recordItems, Renderer.items_cons_of_ne _ (Renderer.role_message_ne record)]
  -- the payload was made with the record, the message is rendered only now
  unfold execute at hrecord
  rw [hmode] at hrecord
  rw [Renderer.item_message_of_mem_execute _ hrecord]

end Agent

end Colloquy
