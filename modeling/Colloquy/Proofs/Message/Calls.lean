import Colloquy.Message.Basic
import Colloquy.Proofs.Json.Records

/-!
# Calls noted with messages

A message of the model notes the calls it asks for as JSON, and the calls are
taken from there again when the conversation is put before a provider. That
loses nothing: whatever a call is made of – text or an object for its
arguments, a name or none, a block of the provider's own – it is read back as
it was (`ToolCall.ofJson_toJson`), and so is the list of them
(`Message.toolCalls_assistantWithCalls`).
-/

namespace Colloquy

open Json (Fields)
open Json.Decode (needed withDefault whenGiven)

namespace ToolCall

/-- Arguments are read back. -/
theorem Arguments.ofJson_toJson (a : Arguments) : Arguments.ofJson a.toJson = .ok a := by
  cases a <;> rfl

/-- The entries of the form in which messages keep a call. -/
def entries (c : ToolCall) : List (String × Json) :=
  [("id", .str c.id), ("name", .str c.name), ("arguments", c.arguments.toJson)]
    ++ (c.input.map fun fields => ("input", Json.obj fields)).toList

theorem toJson_eq_ofFields (c : ToolCall) : c.toJson = .ofFields c.entries := by
  obtain ⟨id, name, arguments, input⟩ := c
  cases input <;> rfl

/-- Each entry of a call is one that the layout of calls accepts. -/
theorem layout_accepts {c : ToolCall} {e : String × Json} (he : e ∈ c.entries) :
    ∃ rule, layout.rules.find? (·.name = e.1) = some rule ∧ rule.accept e.2 = .ok () := by
  simp only [entries, List.mem_append, List.mem_cons, List.not_mem_nil, or_false,
    Option.mem_toList, Option.map_eq_some_iff] at he
  rcases he with (rfl | rfl | rfl) | ⟨fields, -, rfl⟩
  · exact ⟨_, rfl, rfl⟩
  · exact ⟨_, rfl, rfl⟩
  · refine ⟨_, rfl, ?_⟩
    show (Arguments.ofJson c.arguments.toJson).map _ = _
    rw [Arguments.ofJson_toJson]
    rfl
  · exact ⟨_, rfl, rfl⟩

/-- **A call is read back** from the form in which messages keep it. -/
theorem ofJson_toJson (c : ToolCall) : ofJson c.toJson = .ok c := by
  have hread : layout.read c.toJson = .ok (Fields.ofList c.entries) := by
    rw [toJson_eq_ofFields]
    exact Json.Decode.Record.read_obj (fun e he => layout_accepts (Fields.mem_of_mem_ofList he))
  -- the second pass takes the four fields out by name
  have hid : (Fields.ofList c.entries).find? "id" = some (.str c.id) := by
    rw [Fields.find?_ofList]
    cases h : c.input <;> simp [entries, h]
  have hname : (Fields.ofList c.entries).find? "name" = some (.str c.name) := by
    rw [Fields.find?_ofList]
    cases h : c.input <;> simp [entries, h]
  have harguments : (Fields.ofList c.entries).find? "arguments" = some c.arguments.toJson := by
    rw [Fields.find?_ofList]
    cases h : c.input <;> simp [entries, h]
  have hinput : (Fields.ofList c.entries).find? "input" = c.input.map Json.obj := by
    rw [Fields.find?_ofList]
    cases h : c.input <;> simp [entries, h]
  simp only [ofJson, hread, Json.Decode.ok_bind, needed, withDefault, whenGiven, hid, hname,
    harguments, hinput, Json.Decode.text, Arguments.ofJson_toJson]
  obtain ⟨id, name, arguments, input⟩ := c
  cases input <;> rfl

/-- A list of calls is read back, and none of them is passed over. -/
theorem listOfJson_map_toJson (calls : List ToolCall) :
    listOfJson (calls.map toJson) = calls := by
  rw [listOfJson, List.filterMap_map]
  have hread : (fun v => (ofJson v).toOption) ∘ toJson = some := by
    funext c
    rw [Function.comp_apply, ofJson_toJson]
    rfl
  rw [hread, List.filterMap_some]

end ToolCall

namespace Message

/-- **Calls noted with a message are read back.** -/
@[simp] theorem toolCalls_assistantWithCalls (s : String) (calls : List ToolCall) :
    (assistantWithCalls s calls).toolCalls = calls := by
  simp only [toolCalls, assistantWithCalls, note, Fields.find?_insert_self]
  exact ToolCall.listOfJson_map_toJson calls

end Message

end Colloquy
