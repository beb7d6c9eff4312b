import Colloquy.Proofs.Message.Calls
import Colloquy.Proofs.Tool.Records

/-!
# Conversations before a provider

A conversation is put before a provider message by message, so that what is
added to it is added to what the provider is sent (`Renderer.items_append`).
The messages that a run adds itself are sent as what they were made from: a
text as that text, calls as the calls that were asked for, and – to a chat
provider – the result of a call as the very output its record holds
(`Renderer.item_message_of_mem_execute`).
-/

namespace Colloquy

open Provider (Item)
open Tool (Record)

namespace Renderer

variable (r : Renderer)

/-- **What is added to a conversation is added to what is sent.** -/
@[simp] theorem items_append (ms ns : List Message) :
    r.items (ms ++ ns) = r.items ms ++ r.items ns := by
  rw [items, List.filter_append, List.map_append]
  rfl

/-- A message that is no instruction is an entry of its own. -/
theorem items_cons_of_ne {m : Message} (hm : m.role ≠ .system) (ms : List Message) :
    r.items (m :: ms) = r.item m :: r.items ms := by
  rw [items, List.filter_cons_of_pos (by simpa using hm), List.map_cons]
  rfl

/-- Instructions are no entries. -/
@[simp] theorem items_system_cons (s : String) (ms : List Message) :
    r.items (.system s :: ms) = r.items ms := rfl

/-- What a person or the model has said is sent as its text. -/
theorem items_ofText_cons {role : Role} (hrole : role = .user ∨ role = .assistant) (s : String)
    (ms : List Message) : r.items (.ofText role s :: ms) = .ofText role s :: r.items ms := by
  rcases hrole with rfl | rfl
  · rfl
  · rfl

/-- **What the model asks for is sent as its text and its calls.** -/
@[simp] theorem items_assistantWithCalls_cons (s : String) (calls : List ToolCall)
    (ms : List Message) :
    r.items (.assistantWithCalls s calls :: ms)
      = .message .assistant (.text s) calls :: r.items ms := by
  rw [items_cons_of_ne r (show (Message.assistantWithCalls s calls).role ≠ .system from
    show Role.assistant ≠ .system by decide)]
  refine congrArg (· :: r.items ms) ?_
  show Item.message .assistant _ (Message.assistantWithCalls s calls).toolCalls = _
  rw [Message.toolCalls_assistantWithCalls]
  rfl

/-- The message of a record is sent as the output of a tool. -/
theorem item_message (record : Record) :
    r.item record.message
      = .toolResult record.toolName record.callId (Tool.resultText record.result.content) := by
  rw [Record.message_eq]
  show Item.toolResult _ _ (partsText [Tool.resultPart record.result.content]) = _
  rw [Tool.partsText_resultPart]
  rfl

/-- **To a chat provider the message of a record is sent as its payload**:
the two ways of putting a result into words agree, whatever the result is. -/
theorem item_message_of_mem_execute {parallel : Bool} {registry : Tool.Registry}
    {context : Tool.Context} {past : List String} {calls : List ToolCall} {record : Record}
    (h : record
      ∈ (Tool.execute .chatCompletions parallel registry context past calls).records) :
    r.item record.message = record.payload := by
  rw [item_message, Tool.payload_of_mem_execute h]
  rfl

/-- The message of a record is no instruction. -/
theorem role_message_ne (record : Record) : record.message.role ≠ .system := by
  rw [Record.message_eq]
  exact show Role.tool ≠ .system by decide

/-- What several things add is what each of them adds. -/
theorem items_flatMap {α : Type} (xs : List α) (f : α → List Message) :
    r.items (xs.flatMap f) = xs.flatMap fun x => r.items (f x) := by
  induction xs with
  | nil => rfl
  | cons x xs ih => rw [List.flatMap_cons, items_append, ih, List.flatMap_cons]

end Renderer

end Colloquy
