import Colloquy.Proofs.Rendering

/-!
# The passages of requests

A request puts what came of tool calls before the provider, sometimes
together with the response that asked for them. The provider can follow if
each output has the shape that its family has for outputs, and if a response
that is sent along calls its calls by the ids that their outputs go by.

To tell which entry is the output of which call, a request is taken apart
into passages (`Passage`), each of which is what is sent of one response and its
calls. A passage correlates (`Passage.Correlates`) if shapes and ids are right.

Whether it does depends on the form in which outputs are sent. The payload of a
record has the shape of the family, so that only ids can differ: to a
responses provider an output may go by the id in the call's block, while a
response that is sent along calls its calls by their own ids
(`Passage.correlates_payload_iff`). The message that a conversation keeps of a
record is sent in the shape of the chat family, whatever the family is
(`Passage.correlates_message_iff`).
-/

namespace Colloquy

open Provider (Completion Item Mode)
open Tool (Record resultId)

namespace Provider.Item

/-- The family that has this shape for the output of a tool. -/
def family? : Item → Option Mode
  | .message _ _ _ => none
  | .toolResult _ _ _ => some .chatCompletions
  | .callOutput _ _ => some .responses

/-- The id that the output of a tool goes by. -/
def callId? : Item → Option String
  | .message _ _ _ => none
  | .toolResult _ callId _ => some callId
  | .callOutput callId _ => some callId

/-- **The ids of the calls of a message**, as they are sent. -/
def wireIds (item : Item) : List (Option Json) :=
  match item.toJson.field? "tool_calls" with
  | some (.arr calls) => calls.map fun call => call.field? "id"
  | _ => []

/-- A call is sent by its own id. -/
theorem field?_id_toWire (call : ToolCall) : call.toWire.field? "id" = some (.str call.id) := by
  show Json.Fields.find? (Json.Fields.ofList _) "id" = _
  rw [Json.Fields.find?_ofList]
  rfl

/-- **The calls of a message are sent by their own ids.** -/
theorem wireIds_message (role : Role) (content : Content) (calls : List ToolCall) :
    (message role content calls).wireIds = calls.map fun call => some (.str call.id) := by
  have hcalls : (message role content calls).toJson.field? "tool_calls"
      = if calls.isEmpty then none else some (.arr (calls.map ToolCall.toWire)) := by
    show Json.Fields.find? (Json.Fields.ofList _) "tool_calls" = _
    rw [Json.Fields.find?_ofList]
    cases calls <;> rfl
  unfold wireIds
  rw [hcalls]
  cases calls with
  | nil => rfl
  | cons call calls =>
    show ((call :: calls).map ToolCall.toWire).map _ = _
    rw [List.map_map]
    exact List.map_congr_left fun call _ => field?_id_toWire call

@[simp] theorem family?_outputItem (mode : Mode) (name callId output : String) :
    (Tool.outputItem mode name callId output).family? = some mode := by
  cases mode <;> rfl

@[simp] theorem callId?_outputItem (mode : Mode) (name callId output : String) :
    (Tool.outputItem mode name callId output).callId? = some callId := by
  cases mode <;> rfl

end Provider.Item

/-! ## Passages of requests -/

/-- **The output of a call in a request.** -/
structure Output where
  /-- The call. -/
  call : ToolCall
  /-- Its output. -/
  item : Item
  /-- What the tool has added, sent right after it. -/
  further : List Item := []

/-- The entries that are sent for a call. -/
def Output.items (o : Output) : List Item := o.item :: o.further

/-- **A passage of a request.** -/
inductive Passage where
  /-- Entries that are no outputs of calls made on the way. -/
  | plain (items : List Item)
  /-- The outputs of the calls of a response, behind the response if that is
  sent along. -/
  | calls (response : Option Item) (outputs : List Output)

namespace Passage

/-- The entries of a passage. -/
def items : Passage → List Item
  | .plain items => items
  | .calls response outputs => response.toList ++ outputs.flatMap Output.items

/-- The outputs in a passage. -/
def outputs : Passage → List Output
  | .plain _ => []
  | .calls _ outputs => outputs

/-- The response that is sent along. -/
def response? : Passage → Option Item
  | .plain _ => none
  | .calls response _ => response

/-- **What is sent behind the response**: the passage without its first entry. -/
def behind : Passage → Passage
  | .plain items => .plain items.tail
  | .calls _ outputs => .calls none outputs

/-- **A passage correlates** for a family of providers. -/
structure Correlates (mode : Mode) (p : Passage) : Prop where
  /-- Outputs have the shape of the family. -/
  shape : ∀ o ∈ p.outputs, o.item.family? = some mode
  /-- A response that is sent along calls its calls by the ids that their
  outputs go by. -/
  ids : ∀ response, p.response? = some response →
    response.wireIds = p.outputs.map fun o => o.item.callId?.map Json.str

/-- **The passage of a response and its calls**, given the form in which outputs
are sent, and what comes with them. -/
def ofCalls (c : Completion) (records : List Record) (form : Record → Item)
    (further : Record → List Item) : Passage :=
  .calls (some (.message .assistant (.text c.content) c.toolCalls))
    (List.zipWith (fun call record => ⟨call, form record, further record⟩) c.toolCalls records)

variable {mode : Mode} {c : Completion} {records : List Record} {form : Record → Item}
variable {further : Record → List Item}

/-- Where there are no outputs, there is nothing to correlate. -/
theorem correlates_plain (mode : Mode) (items : List Item) : (plain items).Correlates mode where
  shape _ h := by cases h
  ids _ h := by cases h

/-- **Records settle calls** if they answer them one by one and hold their
outputs in the form of the family. -/
structure Settles (mode : Mode) (calls : List ToolCall) (records : List Record) : Prop where
  /-- One by one. -/
  answers : List.Forall₂ (Record.Answers mode) calls records
  /-- In the form of the family. -/
  payload : ∀ record ∈ records, record.payload = Tool.outputItem mode record.toolName record.callId
    (Tool.resultText record.result.content)

/-- Executed calls are settled. -/
theorem settles_execute (mode : Mode) (parallel : Bool) (registry : Tool.Registry)
    (context : Tool.Context) (past : List String) (calls : List ToolCall) :
    Settles mode calls (Tool.execute mode parallel registry context past calls).records where
  answers := Tool.forall₂_answers_execute mode parallel registry context past calls
  payload _ h := Tool.payload_of_mem_execute h

/-- The payload of a record has the shape of the family. -/
theorem Settles.family?_payload {calls : List ToolCall} (h : Settles mode calls records)
    {record : Record} (hrecord : record ∈ records) : record.payload.family? = some mode := by
  rw [h.payload record hrecord, Item.family?_outputItem]

/-- It goes by the id of the record. -/
theorem Settles.callId?_payload {calls : List ToolCall} (h : Settles mode calls records)
    {record : Record} (hrecord : record ∈ records) :
    record.payload.callId? = some record.callId := by
  rw [h.payload record hrecord, Item.callId?_outputItem]

/-- The outputs of a passage are those of its records. -/
theorem map_outputs (h : Settles mode c.toolCalls records) (form : Record → Item)
    (further : Record → List Item) {α : Type} (f : Item → List Item → α) :
    (ofCalls c records form further).outputs.map (fun o => f o.item o.further)
      = records.map fun record => f (form record) (further record) := by
  show (List.zipWith _ c.toolCalls records).map _ = _
  rw [List.map_zipWith]
  refine List.ext_getElem ?_ fun i _ _ => ?_
  · rw [List.length_zipWith, List.length_map, h.answers.length_eq, Nat.min_self]
  · rw [List.getElem_zipWith, List.getElem_map]

/-- The outputs of a passage are outputs of its calls. -/
theorem map_call_outputs (h : Settles mode c.toolCalls records) :
    (ofCalls c records form further).outputs.map Output.call = c.toolCalls := by
  show (List.zipWith _ c.toolCalls records).map _ = _
  rw [List.map_zipWith]
  refine List.ext_getElem ?_ fun i _ _ => ?_
  · rw [List.length_zipWith, h.answers.length_eq, Nat.min_self]
  · rw [List.getElem_zipWith]

/-- The entries behind a response are those of the records. -/
theorem items_behind_ofCalls (h : Settles mode c.toolCalls records) :
    (ofCalls c records form further).behind.items
      = records.flatMap fun record => form record :: further record := by
  show (ofCalls c records form further).outputs.flatMap (fun o => o.item :: o.further) = _
  rw [List.flatMap_def, map_outputs h form further fun item items => item :: items,
    ← List.flatMap_def]

/-- **The entries of a passage** are the response and those of the records. -/
theorem items_ofCalls (h : Settles mode c.toolCalls records) :
    (ofCalls c records form further).items
      = .message .assistant (.text c.content) c.toolCalls
        :: records.flatMap fun record => form record :: further record :=
  congrArg (_ :: ·) (items_behind_ofCalls h)

/-! ## Which passages correlate -/

/-- **Outputs have the shape of a family** exactly if what records are sent as
has it. -/
theorem shape_iff (h : Settles mode c.toolCalls records) :
    (∀ o ∈ (ofCalls c records form further).outputs, o.item.family? = some mode)
      ↔ ∀ record ∈ records, (form record).family? = some mode := by
  rw [← List.forall_mem_map (f := fun o : Output => o.item.family?) (P := (· = some mode)),
    map_outputs h form further fun item _ => item.family?, List.forall_mem_map]

/-- The ids of records are the ones that results of their calls carry. -/
theorem Settles.map_callId {calls : List ToolCall} (h : Settles mode calls records) :
    records.map Record.callId = calls.map (resultId mode) := by
  obtain ⟨hanswers, -⟩ := h
  induction hanswers with
  | nil => rfl
  | cons hcall _ ih => exact congrArg₂ List.cons hcall.callId ih

/-- **Response and outputs go by the same ids** exactly if each output goes by
the own id of its call. -/
theorem ids_iff (h : Settles mode c.toolCalls records)
    (hform : ∀ record ∈ records, (form record).callId? = some record.callId) :
    (∀ response, (ofCalls c records form further).response? = some response →
        response.wireIds
          = (ofCalls c records form further).outputs.map fun o => o.item.callId?.map Json.str)
      ↔ ∀ call ∈ c.toolCalls, resultId mode call = call.id := by
  have houtputs :
      ((ofCalls c records form further).outputs.map fun o => o.item.callId?.map Json.str)
        = c.toolCalls.map fun call => some (.str (resultId mode call)) := by
    rw [map_outputs h form further fun item _ => item.callId?.map Json.str,
      List.map_congr_left fun record hrecord => by rw [hform record hrecord]]
    have hmap := congrArg (List.map fun id => some (Json.str id)) h.map_callId
    rwa [List.map_map, List.map_map] at hmap
  have hresponse : (ofCalls c records form further).response?
      = some (.message .assistant (.text c.content) c.toolCalls) := rfl
  simp only [hresponse, houtputs, Option.some.injEq, forall_eq', Item.wireIds_message,
    List.map_inj_left, Json.str.injEq]
  exact forall₂_congr fun _ _ => eq_comm

/-- **Records that are sent with their response correlate** exactly if each of
its calls has its own id in the record. -/
theorem correlates_payload_iff (h : Settles mode c.toolCalls records) :
    (ofCalls c records Record.payload further).Correlates mode
      ↔ ∀ call ∈ c.toolCalls, resultId mode call = call.id := by
  have hcallId : ∀ record ∈ records, record.payload.callId? = some record.callId :=
    fun _ => h.callId?_payload
  have hfamily : ∀ record ∈ records, record.payload.family? = some mode :=
    fun _ => h.family?_payload
  exact ⟨fun hp => (ids_iff h hcallId).mp hp.ids, fun hids =>
    ⟨(shape_iff h).mpr hfamily, (ids_iff h hcallId).mpr hids⟩⟩

/-- **Records that are sent behind their response correlate.** -/
theorem correlates_behind (h : Settles mode c.toolCalls records) :
    (ofCalls c records Record.payload further).behind.Correlates mode where
  shape := by
    show ∀ o ∈ (ofCalls c records Record.payload further).outputs, _
    rw [shape_iff h]
    exact fun _ => h.family?_payload
  ids _ hresponse := by cases hresponse

/-- **Messages that are sent with their response correlate** for the chat family
only, if there are any. -/
theorem correlates_message_iff (r : Renderer) (h : Settles mode c.toolCalls records) :
    (ofCalls c records (fun record => r.item record.message) further).Correlates mode
      ↔ mode = .chatCompletions ∨ c.toolCalls = [] := by
  have hcallId : ∀ record ∈ records, (r.item record.message).callId? = some record.callId := by
    intro record _
    rw [Renderer.item_message]
    rfl
  have hfamily : ∀ record ∈ records,
      (r.item record.message).family? = some mode ↔ mode = .chatCompletions := by
    intro record _
    rw [Renderer.item_message, eq_comm]
    exact Option.some_inj
  constructor
  · intro hp
    have hshape := (shape_iff h).mp hp.shape
    cases hrecords : records with
    | nil =>
      rw [hrecords] at h
      exact .inr (List.forall₂_nil_right_iff.mp h.answers)
    | cons record rest =>
      have hrecord : record ∈ records := hrecords ▸ List.mem_cons_self
      exact .inl ((hfamily record hrecord).mp (hshape record hrecord))
  · intro hmode
    refine ⟨(shape_iff h).mpr fun record hrecord => ?_, (ids_iff h hcallId).mpr ?_⟩
    · rcases hmode with hmode | hnil
      · exact (hfamily record hrecord).mpr hmode
      · rw [hnil] at h
        rw [List.forall₂_nil_left_iff.mp h.answers] at hrecord
        cases hrecord
    · rcases hmode with rfl | hnil
      · exact fun call _ => rfl
      · simp [hnil]

end Passage

end Colloquy
