import Colloquy.Json.Decode
import Mathlib.Data.List.Induction

/-!
# Records and their fields

Fields that are put in order are the same fields: none is made up, and under
each name stands what was given under it last (`Fields.find?_ofList`). A
record whose fields are all known and acceptable is read as it is
(`Decode.Record.read_obj`) – its decoder then only has to take the fields out
by name, which is how everything that is written as a record is read back.
-/

namespace Colloquy.Json

namespace Fields

/-- A field of fields with one more set is that one, or was there before. -/
theorem mem_of_mem_insert {fields : Fields} {name : String} {value : Json}
    {e : String × Json} (h : e ∈ fields.insert name value) :
    e = (name, value) ∨ e ∈ fields := by
  induction fields with
  | nil => exact .inl (List.mem_singleton.mp h)
  | cons f rest ih =>
    obtain ⟨n, v⟩ := f
    simp only [insert] at h
    split at h
    · rcases List.mem_cons.mp h with h | h
      · exact .inl h
      · exact .inr (List.mem_cons_of_mem _ h)
    · split at h
      · exact List.mem_cons.mp h
      · rcases List.mem_cons.mp h with h | h
        · exact .inr (h ▸ List.mem_cons_self)
        · exact (ih h).imp_right (List.mem_cons_of_mem _)

/-- The last of several fields is set last. -/
theorem ofList_concat (entries : List (String × Json)) (e : String × Json) :
    ofList (entries ++ [e]) = (ofList entries).insert e.1 e.2 := by
  rw [ofList, List.foldl_append]
  rfl

/-- Fields in order are among the fields they were made from. -/
theorem mem_of_mem_ofList {entries : List (String × Json)} {e : String × Json}
    (h : e ∈ ofList entries) : e ∈ entries := by
  induction entries using List.reverseRecOn with
  | nil => exact h
  | append_singleton entries f ih =>
    rw [ofList_concat] at h
    rw [List.mem_append, List.mem_singleton]
    exact (mem_of_mem_insert h).elim (fun h => .inr h) (fun h => .inl (ih h))

/-- **The field of a name is the last one given under it.** -/
theorem find?_ofList (entries : List (String × Json)) (name : String) :
    (ofList entries).find? name
      = (entries.reverse.find? fun e => e.1 == name).map Prod.snd := by
  induction entries using List.reverseRecOn with
  | nil => rfl
  | append_singleton entries f ih =>
    rw [ofList_concat, List.reverse_append]
    by_cases hf : f.1 = name
    · subst hf
      simp
    · rw [find?_insert_of_ne _ _ (Ne.symm hf), ih]
      simp [hf]

end Fields

namespace Decode

/-- What has been decoded is handed on. -/
@[simp] theorem ok_bind {α β : Type} (a : α) (f : α → Except Mismatch β) :
    (Except.ok a >>= f) = f a := rfl

/-- **An object is read as it is** by a record that knows and accepts all of
its fields. -/
theorem Record.read_obj {r : Record} {fields : Fields}
    (h : ∀ e ∈ fields,
      ∃ rule, r.rules.find? (·.name = e.1) = some rule ∧ rule.accept e.2 = .ok ()) :
    r.read (.obj fields) = .ok fields := by
  have hfields : r.acceptFields fields = .ok () := by
    induction fields with
    | nil => rfl
    | cons e rest ih =>
      obtain ⟨name, value⟩ := e
      obtain ⟨rule, hfind, haccept⟩ := h (name, value) List.mem_cons_self
      have hrest := ih (fun e he => h e (List.mem_cons_of_mem _ he))
      simp only [acceptFields, hfind, haccept, hrest]
      rfl
  simp only [read, hfields]
  rfl

section Fields

variable {α : Type} {decode : Decoder α} {fields : Fields} {name : String} {v : Json}

theorem needed_of_some (h : fields.find? name = some v) : needed fields name decode = decode v := by
  unfold needed
  rw [h]

theorem withDefault_of_some (default : α) (h : fields.find? name = some v) :
    withDefault fields name default decode = decode v := by
  unfold withDefault
  rw [h]

theorem withDefault_of_none (default : α) (h : fields.find? name = none) :
    withDefault fields name default decode = .ok default := by
  unfold withDefault
  rw [h]

theorem whenGiven_of_some (h : fields.find? name = some v) :
    whenGiven fields name decode = nullable decode v :=
  withDefault_of_some none h

theorem whenGiven_of_none (h : fields.find? name = none) :
    whenGiven fields name decode = .ok none :=
  withDefault_of_none none h

end Fields

/-- **A list is decoded item by item.** -/
theorem list_map {α β : Type} {encode : α → Json} {decode : Decoder β} {f : α → β} {as : List α}
    (h : ∀ a ∈ as, decode (encode a) = .ok (f a)) :
    list decode (.arr (as.map encode)) = .ok (as.map f) := by
  show (as.map encode).mapM decode = _
  induction as with
  | nil => rfl
  | cons a as ih =>
    obtain ⟨ha, has⟩ := List.forall_mem_cons.mp h
    rw [List.map_cons, List.mapM_cons, ha, ih has]
    rfl

/-- A list whose items are read back is read back. -/
theorem list_map_self {α : Type} {encode : α → Json} {decode : Decoder α} {as : List α}
    (h : ∀ a ∈ as, decode (encode a) = .ok a) : list decode (.arr (as.map encode)) = .ok as := by
  simpa only [id, List.map_id'] using list_map h

end Decode

end Colloquy.Json
