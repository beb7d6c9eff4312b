import Colloquy.Message.Codec
import Colloquy.Proofs.Json.RoundTrip
import Colloquy.Proofs.Message.Calls

/-!
# Conversations that are written and read again

A conversation is written as records within records: messages, in them parts, in those file
sources. What is written is read back but for one thing. An entry that a message need not have
is written only if it is there, and where it is there but null it is written as null – which
reads as an entry that is not there. Names and ids are texts and never null, and a null among
the metadata or as the value of a JSON part is kept; the content in a provider's own form can
be any value, and so it can be lost (`Message.ofJson_toJson`). A conversation is read back as
it was exactly if no message has the null value for that content
(`Transcript.ofJson_toJson_eq_ok_iff`), and one that has been read is
(`Transcript.ofJson_toJson_of_ofJson`). Calls are noted among the metadata, so that they are
never lost (`Message.toolCalls_reread`), not even where a message is kept as text and the text
is read again (`Message.toolCalls_readChars`).
-/

namespace Colloquy

open Json (Fields)
open Json.Decode (Record needed_of_some withDefault_of_some withDefault_of_none
  whenGiven_of_some whenGiven_of_none)

/-! ## Entries that need not be there -/

namespace Json

variable {name other : String} {v : Option Json} {e : String × Json}

theorem mem_optional : e ∈ optional name v ↔ ∃ w, v = some w ∧ e = (name, w) := by
  cases v <;> simp [optional]

@[simp] theorem reverse_optional : (optional name v).reverse = optional name v := by
  cases v <;> rfl

/-- An entry that need not be there is found under its name, if it is there. -/
@[simp] theorem find?_optional_self :
    (optional name v).find? (fun e => e.1 == name) = v.map fun w => (name, w) := by
  cases v <;> simp [optional]

/-- It is not found under any other name. -/
theorem find?_optional_of_ne (h : name ≠ other) :
    (optional name v).find? (fun e => e.1 == other) = none := by
  cases v <;> simp [optional, h]

/-- A text that need not be there is read back. -/
theorem whenGiven_text {fields : Fields} {s : Option String}
    (h : fields.find? name = s.map .str) : Decode.whenGiven fields name Decode.text = .ok s := by
  cases s with
  | none => exact whenGiven_of_none h
  | some s =>
    rw [whenGiven_of_some h]
    rfl

/-- **A value that stands for something**: null stands for none. -/
def given? : Json → Option Json
  | .null => none
  | v => some v

theorem bind_given?_ne_null : v.bind given? ≠ some .null := by
  cases v with
  | none => exact nofun
  | some v => cases v <;> simp [given?]

theorem bind_given?_eq_self_iff : v.bind given? = v ↔ v ≠ some .null := by
  cases v with
  | none => simp
  | some v => cases v <;> simp [given?]

/-- **Of values that need not be there null is read as none.** -/
theorem whenGiven_any (fields : Fields) (name : String) :
    Decode.whenGiven fields name Decode.any = .ok ((fields.find? name).bind given?) := by
  cases h : fields.find? name with
  | none => exact whenGiven_of_none h
  | some v =>
    rw [whenGiven_of_some h]
    cases v <;> rfl

end Json

/-- The items of a list that has been decoded have been decoded. -/
theorem Json.Decode.exists_of_mem_list {α : Type} {decode : Json.Decoder α} {v : Json}
    {as : List α} (h : list decode v = .ok as) {a : α} (ha : a ∈ as) :
    ∃ w, decode w = .ok a := by
  cases v with
  | arr items =>
    change items.mapM decode = .ok as at h
    induction items generalizing as with
    | nil =>
      cases h
      cases ha
    | cons w items ih =>
      rw [List.mapM_cons] at h
      obtain ⟨b, hb, h⟩ := Json.Reader.exists_of_bind_eq_ok h
      obtain ⟨bs, hbs, h⟩ := Json.Reader.exists_of_bind_eq_ok h
      cases h
      rcases List.mem_cons.mp ha with rfl | ha
      · exact ⟨w, hb⟩
      · exact ih ha hbs
  | _ => cases h

/-! ## Roles, sources and parts -/

/-- A role is read back from its name. -/
theorem Role.ofJson_name (aside : Bool) (r : Role) : ofJson aside (.str r.name) = .ok r := by
  cases r <;> rfl

/-- A file source is read back. -/
theorem FileSource.ofJson_toJson (aside : Bool) (source : FileSource) :
    ofJson aside source.toJson = .ok source := by
  obtain ⟨path⟩ := source
  have htag : Json.Decode.tagged "FileSource" aside [("managed_file", ())]
      (toJson (.managed path)) = .ok ((), .ofFields [("path", .str path)]) :=
    Json.Decode.tagged_ofFields (by rfl) (by simp)
  show (Json.Decode.tagged _ _ _ _ >>= _) = _
  rw [htag]
  rfl

namespace Part

/-- The kind of a part. -/
def kind : Part → Kind
  | .text _ => .text
  | .image _ _ => .image
  | .file _ _ _ => .file
  | .json _ => .json

/-- The name that a kind of part has as a tag. -/
def Kind.name : Kind → String
  | .text => "text"
  | .image => "image"
  | .file => "file"
  | .json => "json"

/-- A kind is told by its name. -/
theorem Kind.lookup_name (k : Kind) : byName.lookup k.name = some k := by
  cases k <;> rfl

/-- The entries of a part besides its tag. -/
def entries : Part → List (String × Json)
  | .text s => [("text", .str s)]
  | .image source mime => [("source", source.toJson), ("mime", .str mime)]
  | .file source mime filename =>
    [("source", source.toJson), ("mime", .str mime)] ++ Json.optional "filename" (filename.map .str)
  | .json v => [("value", v)]

theorem toJson_eq_ofFields (p : Part) :
    p.toJson = .ofFields (("type", .str p.kind.name) :: p.entries) := by
  cases p <;> rfl

/-- The names of the entries of a part are different. -/
theorem nodup_names (p : Part) : ("type" :: p.entries.map Prod.fst).Nodup := by
  cases p with
  | file source mime filename => cases filename <;> simp [entries, Json.optional]
  | _ => simp [entries]

/-- A file source is accepted in a part. -/
theorem accept_source (source : FileSource) :
    (Json.Decode.Rule.needs "source" (FileSource.ofJson true)).accept source.toJson = .ok () :=
  Json.Decode.Rule.accept_needs (FileSource.ofJson_toJson true source)

/-- Each entry of a part is one that the layout of its kind accepts. -/
theorem layout_accepts {p : Part} {e : String × Json} (he : e ∈ p.entries) :
    ∃ rule, p.kind.layout.rules.find? (·.name = e.1) = some rule ∧ rule.accept e.2 = .ok () := by
  cases p with
  | text s =>
    rw [List.mem_singleton.mp he]
    exact ⟨_, rfl, rfl⟩
  | image source mime =>
    simp only [entries, List.mem_cons, List.not_mem_nil, or_false] at he
    rcases he with rfl | rfl
    · exact ⟨_, rfl, accept_source source⟩
    · exact ⟨_, rfl, rfl⟩
  | file source mime filename =>
    simp only [entries, List.mem_append, List.mem_cons, List.not_mem_nil, or_false,
      Json.mem_optional, Option.map_eq_some_iff] at he
    rcases he with (rfl | rfl) | ⟨_, ⟨name, -, rfl⟩, rfl⟩
    · exact ⟨_, rfl, accept_source source⟩
    · exact ⟨_, rfl, rfl⟩
    · exact ⟨_, rfl, rfl⟩
  | json v =>
    rw [List.mem_singleton.mp he]
    exact ⟨_, rfl, rfl⟩

/-- **The entries of a part are taken out by name.** -/
theorem ofFields_entries (p : Part) : ofFields p.kind (Fields.ofList p.entries) = .ok p := by
  have hfind {name : String} {v : Json} (h : (name, v) ∈ p.entries) :
      (Fields.ofList p.entries).find? name = some v :=
    Fields.find?_ofList_of_mem p.nodup_names.of_cons h
  cases p with
  | text s =>
    simp only [ofFields, kind, needed_of_some (hfind List.mem_cons_self)]
    rfl
  | image source mime =>
    have hmime : (Fields.ofList _).find? "mime" = some (.str mime) := hfind (by simp [entries])
    simp only [ofFields, kind, needed_of_some (hfind List.mem_cons_self), needed_of_some hmime,
      FileSource.ofJson_toJson]
    rfl
  | file source mime filename =>
    have hmime : (Fields.ofList _).find? "mime" = some (.str mime) := hfind (by simp [entries])
    have hname : (Fields.ofList (entries (.file source mime filename))).find? "filename"
        = filename.map .str := by
      simp [Fields.find?_ofList, entries, Function.comp_def]
    simp only [ofFields, kind, needed_of_some (hfind List.mem_cons_self), needed_of_some hmime,
      FileSource.ofJson_toJson, Json.whenGiven_text hname]
    rfl
  | json v =>
    simp only [ofFields, kind, needed_of_some (hfind List.mem_cons_self)]
    rfl

/-- **A part is read back.** -/
theorem ofJson_toJson (aside : Bool) (p : Part) : ofJson aside p.toJson = .ok p := by
  have hread : p.kind.layout.read (.ofFields p.entries) = .ok (Fields.ofList p.entries) :=
    Record.read_obj fun e he => layout_accepts (Fields.mem_of_mem_ofList he)
  rw [ofJson, toJson_eq_ofFields,
    Json.Decode.tagged_ofFields p.kind.lookup_name p.nodup_names]
  show (p.kind.layout.read _ >>= _) = _
  rw [hread]
  exact p.ofFields_entries

end Part

/-! ## Messages -/

namespace Message

/-- **What is read of a message that is written**: all of it, but for a null in the place of
content in a provider's own form. -/
def reread (m : Message) : Message :=
  { m with rawContent := m.rawContent.bind Json.given? }

theorem reread_eq_self_iff {m : Message} : m.reread = m ↔ m.rawContent ≠ some .null := by
  rw [← Json.bind_given?_eq_self_iff]
  exact ⟨congrArg rawContent, fun h => by rw [reread, h]⟩

/-- Each entry of a message is one that the layout of messages accepts. -/
theorem layout_accepts {aside : Bool} {m : Message} {e : String × Json} (he : e ∈ m.entries) :
    ∃ rule, (layout aside).rules.find? (·.name = e.1) = some rule
      ∧ rule.accept e.2 = .ok () := by
  simp only [entries, List.mem_append, List.mem_cons, List.not_mem_nil, or_false,
    Json.mem_optional, Option.map_eq_some_iff] at he
  rcases he with ((((rfl | rfl) | ⟨_, ⟨s, -, rfl⟩, rfl⟩) | ⟨_, ⟨s, -, rfl⟩, rfl⟩)
    | ⟨v, -, rfl⟩) | he
  · exact ⟨_, rfl, Json.Decode.Rule.accept_needs (Role.ofJson_name aside m.role)⟩
  · exact ⟨_, rfl, Json.Decode.Rule.accept_allows
      (Json.Decode.list_map_self fun p _ => p.ofJson_toJson aside)⟩
  · exact ⟨_, rfl, rfl⟩
  · exact ⟨_, rfl, rfl⟩
  · exact ⟨_, rfl, rfl⟩
  · split_ifs at he
    · cases he
    · rw [List.mem_singleton.mp he]
      exact ⟨_, rfl, rfl⟩

/-- The entries of a message, each under its name. -/
theorem find?_entries (m : Message) :
    (Fields.ofList m.entries).find? "role" = some (.str m.role.name)
      ∧ (Fields.ofList m.entries).find? "content" = some (.arr (m.content.map Part.toJson))
      ∧ (Fields.ofList m.entries).find? "name" = m.name.map .str
      ∧ (Fields.ofList m.entries).find? "tool_call_id" = m.toolCallId.map .str
      ∧ (Fields.ofList m.entries).find? "raw_content" = m.rawContent
      ∧ (Fields.ofList m.entries).find? "metadata"
        = if m.metadata.isEmpty then none else some (.obj m.metadata) := by
  generalize hnotes : (if m.metadata.isEmpty then none else some (Json.obj m.metadata)) = notes
  have hlast : (if m.metadata.isEmpty then [] else [("metadata", Json.obj m.metadata)])
      = Json.optional "metadata" notes := by
    rw [← hnotes]
    split_ifs <;> rfl
  simp only [Fields.find?_ofList, entries, hlast]
  simp [Json.find?_optional_of_ne, Function.comp_def]

/-- **A message is read back**, but for a null in the place of content in a provider's own
form. -/
theorem ofJson_toJson (aside : Bool) (m : Message) : ofJson aside m.toJson = .ok m.reread := by
  have hread : (layout aside).read m.toJson = .ok (Fields.ofList m.entries) :=
    Record.read_obj fun e he => layout_accepts (Fields.mem_of_mem_ofList he)
  obtain ⟨hrole, hcontent, hname, hid, hraw, hnotes⟩ := m.find?_entries
  have hparts : Json.Decode.list (Part.ofJson aside) (.arr (m.content.map Part.toJson))
      = .ok m.content :=
    Json.Decode.list_map_self fun p _ => p.ofJson_toJson aside
  have hmetadata : Json.Decode.withDefault (Fields.ofList m.entries) "metadata" []
      Json.Decode.fields = .ok m.metadata := by
    by_cases hempty : m.metadata.isEmpty
    · rw [withDefault_of_none _ (hnotes.trans (if_pos hempty)), List.isEmpty_iff.mp hempty]
    · rw [withDefault_of_some _ (hnotes.trans (if_neg hempty))]
      rfl
  simp only [ofJson, hread, Json.Decode.ok_bind, needed_of_some hrole, Role.ofJson_name,
    withDefault_of_some _ hcontent, hparts, Json.whenGiven_text hname,
    Json.whenGiven_text hid, Json.whenGiven_any, hraw, hmetadata]
  rfl

/-- A message that has been read has no null in the place of content in a provider's own
form. -/
theorem rawContent_ne_null_of_ofJson {aside : Bool} {v : Json} {m : Message}
    (h : ofJson aside v = .ok m) : m.rawContent ≠ some .null := by
  obtain ⟨found, -, h⟩ := Json.Reader.exists_of_bind_eq_ok h
  obtain ⟨_, -, h⟩ := Json.Reader.exists_of_bind_eq_ok h
  obtain ⟨_, -, h⟩ := Json.Reader.exists_of_bind_eq_ok h
  obtain ⟨_, -, h⟩ := Json.Reader.exists_of_bind_eq_ok h
  obtain ⟨_, -, h⟩ := Json.Reader.exists_of_bind_eq_ok h
  obtain ⟨raw, hraw, h⟩ := Json.Reader.exists_of_bind_eq_ok h
  obtain ⟨_, -, h⟩ := Json.Reader.exists_of_bind_eq_ok h
  cases h
  rw [Json.whenGiven_any] at hraw
  cases hraw
  exact Json.bind_given?_ne_null

end Message

/-! ## Conversations -/

namespace Transcript

/-- What is read of a conversation that is written. -/
def reread (t : Transcript) : Transcript :=
  ⟨t.messages.map Message.reread⟩

theorem reread_eq_self_iff {t : Transcript} :
    t.reread = t ↔ ∀ m ∈ t.messages, m.rawContent ≠ some .null := by
  have hmap : t.reread = t ↔ t.messages.map Message.reread = t.messages.map id := by
    rw [List.map_id]
    exact ⟨congrArg messages, fun h => by rw [reread, h]⟩
  rw [hmap, List.map_inj_left]
  exact forall₂_congr fun m _ => Message.reread_eq_self_iff

/-- **A conversation is read back**, message by message. -/
theorem ofJson_toJson (t : Transcript) : ofJson t.toJson = .ok t.reread := by
  have hlist : Json.Decode.list (Message.ofJson false) (.arr (t.messages.map Message.toJson))
      = .ok (t.messages.map Message.reread) :=
    Json.Decode.list_map fun m _ => m.ofJson_toJson false
  have hread : layout.read t.toJson
      = .ok [("messages", .arr (t.messages.map Message.toJson))] := by
    refine Record.read_obj fun e he => ?_
    rw [List.mem_singleton.mp he]
    exact ⟨_, rfl, Json.Decode.Rule.accept_needs hlist⟩
  rw [ofJson, hread, Json.Decode.ok_bind, needed_of_some rfl, hlist]
  rfl

/-- **A conversation that is written is read back exactly** as long as no message has the
null value as its content in a provider's own form. Such a message is read without that
content; all the rest of it – role, parts of all kinds, name, id and metadata – and all other
messages are read back as they were. -/
theorem ofJson_toJson_eq_ok_iff (t : Transcript) :
    ofJson t.toJson = .ok ⟨t.messages.map fun m =>
        { m with rawContent := m.rawContent.bind Json.given? }⟩
      ∧ (ofJson t.toJson = .ok t ↔ ∀ m ∈ t.messages, m.rawContent ≠ some .null) := by
  refine ⟨t.ofJson_toJson, ?_⟩
  rw [ofJson_toJson, Except.ok.injEq]
  exact reread_eq_self_iff

/-- A tool result with null values where they are kept. -/
def nullsElsewhere : Transcript :=
  ⟨[{ Message.toolPart "call_1" "look" (.json .null) with
      rawContent := some (.arr [.null]), metadata := [("note", .null)] }]⟩

theorem ofJson_toJson_nullsElsewhere : ofJson nullsElsewhere.toJson = .ok nullsElsewhere :=
  (ofJson_toJson_eq_ok_iff nullsElsewhere).2.mpr (by simp [nullsElsewhere])

/-- An answer whose content in the provider's form is null. -/
def nullContent : Transcript :=
  ⟨[{ Message.assistant "a" with rawContent := some .null }]⟩

/-- **Not every conversation is read back**: content that is null is lost. -/
theorem not_ofJson_toJson : ¬ ∀ t : Transcript, ofJson t.toJson = .ok t := by
  intro h
  have hlost := (ofJson_toJson nullContent).symm.trans (h nullContent)
  exact reread_eq_self_iff.mp (Except.ok.inj hlost) _ List.mem_cons_self rfl

/-- **A conversation that has been read survives**: it can be written and read as often as
one likes. -/
theorem ofJson_toJson_of_ofJson {v : Json} {t : Transcript} (h : ofJson v = .ok t) :
    ofJson t.toJson = .ok t := by
  obtain ⟨fields, -, h⟩ := Json.Reader.exists_of_bind_eq_ok h
  obtain ⟨messages, hmessages, h⟩ := Json.Reader.exists_of_bind_eq_ok h
  cases h
  rw [ofJson_toJson, reread_eq_self_iff.mpr fun m hm => ?_]
  cases hfind : fields.find? "messages" with
  | none => simp [Json.Decode.needed, hfind] at hmessages
  | some w =>
    rw [needed_of_some hfind] at hmessages
    obtain ⟨u, hu⟩ := Json.Decode.exists_of_mem_list hmessages hm
    exact Message.rawContent_ne_null_of_ofJson hu

end Transcript

/-! ## Noted calls -/

namespace Message

/-- What a message notes is kept when it is written and read, and so are its calls. -/
theorem toolCalls_reread (m : Message) : m.reread.toolCalls = m.toolCalls := rfl

/-- **The calls that a message notes are told from it again**, all of them, in order and as
they were: their ids, their names, even empty ones, their arguments, be they a text or an
object, and the blocks of the provider's own, if there are any. So it is when the message has
been written as JSON and read, be it set aside or not, and so it is when it has been written
and read with the whole conversation. -/
theorem toolCalls_noted (s : String) (calls : List ToolCall) :
    (assistantWithCalls s calls).toolCalls = calls
      ∧ (∀ aside, ∃ m, ofJson aside (assistantWithCalls s calls).toJson = .ok m
          ∧ m.toolCalls = calls)
      ∧ ∀ before after, ∃ t,
          Transcript.ofJson (Transcript.mk (before ++ assistantWithCalls s calls :: after)).toJson
            = .ok t
          ∧ t.messages.map toolCalls = before.map toolCalls ++ calls :: after.map toolCalls := by
  have hnoted := toolCalls_assistantWithCalls s calls
  refine ⟨hnoted, fun aside => ?_, fun before after => ?_⟩
  · exact ⟨_, ofJson_toJson aside _, (toolCalls_reread _).trans hnoted⟩
  · refine ⟨_, Transcript.ofJson_toJson _, ?_⟩
    have hcalls : toolCalls ∘ reread = toolCalls := funext toolCalls_reread
    rw [Transcript.reread, List.map_map, hcalls, List.map_append, List.map_cons, hnoted]

/-! ## The text of noted calls -/

/-- **The objects of calls can be read back** from a text: those that are given for arguments,
and the blocks of the provider's own. -/
def ReadableCalls (depth : Nat) (calls : List ToolCall) : Prop :=
  ∀ call ∈ calls, ∀ fields, call.arguments = .object fields ∨ call.input = some fields →
    (Json.obj fields).Readable depth

variable {depth : Nat} {calls : List ToolCall}

/-- A call can then be read back as a whole. -/
theorem ReadableCalls.toJson (h : ReadableCalls depth calls) {call : ToolCall}
    (hcall : call ∈ calls) : call.toJson.Readable (depth + 1) := by
  have harguments : call.arguments.toJson.Readable depth := by
    cases hgiven : call.arguments with
    | text s => exact .str s
    | object fields => exact h call hcall fields (.inl hgiven)
  rw [ToolCall.toJson_eq_ofFields]
  refine .ofFields fun e he => ?_
  simp only [ToolCall.entries, List.mem_append, List.mem_cons, List.not_mem_nil, or_false,
    Option.mem_toList, Option.map_eq_some_iff] at he
  rcases he with (rfl | rfl | rfl) | ⟨fields, hinput, rfl⟩
  · exact .str _
  · exact .str _
  · exact harguments
  · exact h call hcall fields (.inr hinput)

/-- So can the message that notes the calls. It needs four levels around their objects: its own,
those of its notes and of the list, and those of the calls. -/
theorem ReadableCalls.assistantWithCalls (h : ReadableCalls depth calls) (s : String) :
    (assistantWithCalls s calls).toJson.Readable (depth + 4) := by
  have hnote : (Json.arr (calls.map ToolCall.toJson)).Readable (depth + 2) :=
    .arr (List.forall_mem_map.mpr fun call hcall => h.toJson hcall)
  have hmetadata : (Json.ofFields [("tool_calls", .arr (calls.map ToolCall.toJson))]).Readable
      (depth + 3) := .ofFields (List.forall_mem_singleton.mpr hnote)
  have hcontent : (Json.arr [(Part.text s).toJson]).Readable (depth + 3) :=
    .arr (List.forall_mem_singleton.mpr (.ofFields (List.forall_mem_cons.mpr
      ⟨.str "text", List.forall_mem_singleton.mpr (.str s)⟩)))
  exact .ofFields (List.forall_mem_cons.mpr ⟨.str "assistant", List.forall_mem_cons.mpr
    ⟨hcontent, List.forall_mem_singleton.mpr hmetadata⟩⟩)

/-- **Noted calls are told from the text of their message**, if their objects can be read back
at all. -/
theorem toolCalls_readChars (h : ReadableCalls (Json.Reader.greatestDepth - 4) calls)
    (s : String) :
    ∃ v m, Json.readChars (assistantWithCalls s calls).toJson.print = .ok v
      ∧ ofJson false v = .ok m ∧ m.toolCalls = calls := by
  refine ⟨_, _, (h.assistantWithCalls s).readChars_print, ofJson_toJson false _, ?_⟩
  rw [toolCalls_reread, toolCalls_assistantWithCalls]

end Message

end Colloquy
