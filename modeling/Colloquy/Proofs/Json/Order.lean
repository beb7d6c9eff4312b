import Colloquy.Proofs.Json.Reader
import Colloquy.Proofs.Json.Records
import Mathlib.Data.String.Basic

/-!
# Values in order

The type of JSON values allows objects in which a name is given twice, or in which the
names are not in their order. Such an object is never made: setting a field keeps the
order (`Fields.Sorted.insert`), so fields that are put in order are so
(`Fields.sorted_ofList`), and the reader makes all its objects that way. What has been
read is therefore **in order**, through and through (`inOrder_of_readChars`).

That is what it takes for the two ways of looking at an object to agree, by name and
entry by entry (`Fields.Sorted.find?_eq_some_iff`).
-/

namespace Colloquy.Json

/-- **Fields are sorted** by their names, each name once. -/
def Fields.Sorted (fields : Fields) : Prop :=
  fields.Pairwise fun e e' => e.1 < e'.1

/-- **A value is in order**: the fields of every object in it are sorted. -/
inductive InOrder : Json → Prop
  /-- The null value. -/
  | null : InOrder .null
  /-- A truth value. -/
  | bool (b : Bool) : InOrder (.bool b)
  /-- A number. -/
  | num (n : Number) : InOrder (.num n)
  /-- A string. -/
  | str (s : String) : InOrder (.str s)
  /-- All items are in order. -/
  | arr {items : List Json} (inner : ∀ v ∈ items, InOrder v) : InOrder (.arr items)
  /-- The fields are sorted, and all values are in order. -/
  | obj {fields : Fields} (sorted : Fields.Sorted fields) (inner : ∀ e ∈ fields, InOrder e.2) :
      InOrder (.obj fields)

namespace Fields

variable {fields : Fields} {name : String} {value : Json}

/-- **Setting a field keeps fields sorted.** -/
theorem Sorted.insert (h : Sorted fields) (name : String) (value : Json) :
    Sorted (fields.insert name value) := by
  induction fields with
  | nil => exact List.pairwise_singleton _ _
  | cons e rest ih =>
    obtain ⟨n, v⟩ := e
    obtain ⟨hfirst, hrest⟩ := List.pairwise_cons.mp h
    rw [Fields.insert]
    split_ifs with heq hlt
    · exact List.pairwise_cons.mpr ⟨fun e he => heq ▸ hfirst e he, hrest⟩
    · refine List.pairwise_cons.mpr ⟨fun e he => ?_, h⟩
      rcases List.mem_cons.mp he with rfl | he
      · exact hlt
      · exact hlt.trans (hfirst e he)
    · refine List.pairwise_cons.mpr ⟨fun e he => ?_, ih hrest⟩
      rcases mem_of_mem_insert he with rfl | he
      · exact lt_of_le_of_ne (not_lt.mp hlt) (Ne.symm heq)
      · exact hfirst e he

/-- **Fields that are put in order are sorted.** -/
theorem sorted_ofList (entries : List (String × Json)) : Sorted (ofList entries) := by
  induction entries using List.reverseRecOn with
  | nil => exact List.Pairwise.nil
  | append_singleton entries e ih =>
    rw [ofList_concat]
    exact ih.insert e.1 e.2

/-- Fields that are put in order have the names they were given. -/
theorem mem_of_mem_names_ofList {entries : List (String × Json)}
    (h : name ∈ (ofList entries).names) : name ∈ entries.map Prod.fst := by
  obtain ⟨e, he, rfl⟩ := List.mem_map.mp h
  exact List.mem_map_of_mem (mem_of_mem_ofList he)

/-- A field that is found is there. -/
theorem mem_of_find?_eq_some (h : fields.find? name = some value) : (name, value) ∈ fields := by
  induction fields with
  | nil => cases h
  | cons e rest ih =>
    obtain ⟨n, v⟩ := e
    rw [find?] at h
    split_ifs at h with heq
    · cases h
      exact heq ▸ List.mem_cons_self
    · exact List.mem_cons_of_mem _ (ih h)

/-- **A field of sorted fields is found exactly if it is there.** -/
theorem Sorted.find?_eq_some_iff (h : Sorted fields) :
    fields.find? name = some value ↔ (name, value) ∈ fields := by
  refine ⟨mem_of_find?_eq_some, fun hmem => ?_⟩
  induction fields with
  | nil => cases hmem
  | cons e rest ih =>
    obtain ⟨n, v⟩ := e
    obtain ⟨hfirst, hrest⟩ := List.pairwise_cons.mp h
    rw [find?]
    rcases List.mem_cons.mp hmem with heq | hmem
    · cases heq
      exact if_pos rfl
    · rw [if_neg (ne_of_lt (hfirst _ hmem)), ih hrest hmem]

/-- Fields are sorted if their names are. -/
theorem sorted_iff_names : fields.Sorted ↔ fields.names.Pairwise (· < ·) :=
  List.pairwise_map.symm

/-- A field that is set under a new name is one field more. -/
theorem insert_perm (h : name ∉ fields.names) (value : Json) :
    (fields.insert name value).Perm ((name, value) :: fields) := by
  induction fields with
  | nil => exact .refl _
  | cons e rest ih =>
    obtain ⟨hne, hrest⟩ := not_or.mp (List.mem_cons.not.mp h)
    rw [Fields.insert, if_neg hne]
    split_ifs
    · exact .refl _
    · exact ((ih hrest).cons e).trans (.swap _ _ _)

/-- Fields with different names are only put in order. -/
theorem ofList_perm {entries : List (String × Json)} (h : (entries.map Prod.fst).Nodup) :
    (ofList entries).Perm entries := by
  induction entries using List.reverseRecOn with
  | nil => exact .refl _
  | append_singleton entries e ih =>
    rw [List.map_append, List.map_singleton, List.nodup_append] at h
    obtain ⟨hnodup, -, hnew⟩ := h
    have hname : e.1 ∉ (ofList entries).names := fun hmem =>
      hnew e.1 (mem_of_mem_names_ofList hmem) e.1 (List.mem_singleton_self _) rfl
    rw [ofList_concat]
    exact (insert_perm hname e.2).trans (((ih hnodup).cons e).trans
      (List.perm_append_singleton e entries).symm)

/-- Of fields with different names each is found. -/
theorem find?_ofList_of_mem {entries : List (String × Json)}
    (hnames : (entries.map Prod.fst).Nodup) (h : (name, value) ∈ entries) :
    (ofList entries).find? name = some value :=
  (sorted_ofList entries).find?_eq_some_iff.mpr ((ofList_perm hnames).mem_iff.mpr h)

/-- **There is one order to put fields in.** -/
theorem ofList_eq_of_perm {entries : List (String × Json)} (h : fields.Sorted)
    (hperm : entries.Perm fields) : ofList entries = fields := by
  have hnodup : (entries.map Prod.fst).Nodup :=
    (hperm.map Prod.fst).nodup_iff.mpr ((sorted_iff_names.mp h).imp ne_of_lt)
  exact ((ofList_perm hnodup).trans hperm).eq_of_pairwise
    (fun e f _ _ hlt hgt => absurd (hlt.trans hgt) (lt_irrefl _)) (sorted_ofList entries) h

end Fields

/-- An object that is put in order is in order if its values are. -/
theorem inOrder_ofFields {entries : List (String × Json)} (h : ∀ e ∈ entries, e.2.InOrder) :
    (ofFields entries).InOrder :=
  .obj (Fields.sorted_ofList entries) fun e he => h e (Fields.mem_of_mem_ofList he)

/-! ## Records of sorted fields -/

namespace Decode

variable {α : Type} {decode : Decoder α} {fields : Fields} {name : String} {v : Json} {x : α}

/-- A needed field is accepted if it is decoded. -/
theorem Rule.accept_needs (h : decode v = .ok x) : (Rule.needs name decode).accept v = .ok () := by
  show (decode v).map _ = _
  rw [h]
  rfl

/-- So is one that may be missing. -/
theorem Rule.accept_allows (h : decode v = .ok x) :
    (Rule.allows name decode).accept v = .ok () := by
  show (decode v).map _ = _
  rw [h]
  rfl

/-- **Sorted fields are read by a record** that knows all of them and accepts those it
has rules for. -/
theorem Record.read_obj_of_sorted {r : Record} (h : fields.Sorted)
    (hknown : ∀ name ∈ fields.names, name ∈ r.rules.map Rule.name)
    (haccepts : ∀ rule ∈ r.rules, ∀ v, fields.find? rule.name = some v →
      rule.accept v = .ok ()) :
    r.read (.obj fields) = .ok fields := by
  refine read_obj fun e he => ?_
  obtain ⟨rule, hrule, hname⟩ := List.mem_map.mp (hknown e.1 (List.mem_map_of_mem he))
  cases hfind : r.rules.find? (·.name = e.1) with
  | none => simpa [hname] using List.find?_eq_none.mp hfind rule hrule
  | some rule' =>
    have hname' : rule'.name = e.1 := by simpa using List.find?_some hfind
    refine ⟨rule', rfl, haccepts rule' (List.mem_of_find?_eq_some hfind) e.2 ?_⟩
    rw [hname']
    exact h.find?_eq_some_iff.mpr he

/-- **A tagged record is told by its tag**, and its other fields are left. -/
theorem tagged_ofFields {title kind : String} {aside : Bool} {known : List (String × α)} {a : α}
    {entries : List (String × Json)} (hkind : known.lookup kind = some a)
    (hnames : ("type" :: entries.map Prod.fst).Nodup) :
    tagged title aside known (.ofFields (("type", .str kind) :: entries))
      = .ok (a, .ofFields entries) := by
  have hsorted := Fields.sorted_ofList (("type", .str kind) :: entries)
  have hperm : (Fields.ofList (("type", .str kind) :: entries)).Perm
      (("type", .str kind) :: entries) := Fields.ofList_perm hnames
  have htag : Fields.find? (Fields.ofList (("type", .str kind) :: entries)) "type"
      = some (.str kind) :=
    Fields.find?_ofList_of_mem hnames List.mem_cons_self
  have hother : ∀ e ∈ entries, e.1 ≠ "type" := fun e he heq =>
    (List.nodup_cons.mp hnames).1 (heq ▸ List.mem_map_of_mem he)
  have hkept : (("type", .str kind) :: entries).filter (·.1 ≠ "type") = entries := by
    rw [List.filter_cons_of_neg (by simp), List.filter_eq_self.mpr (by simpa using hother)]
  have hrest : (Fields.ofList (("type", .str kind) :: entries)).filter (·.1 ≠ "type")
      = Fields.ofList entries :=
    (Fields.ofList_eq_of_perm (hsorted.filter _)
      (by simpa only [hkept] using (hperm.filter (·.1 ≠ "type")).symm)).symm
  simp only [ofFields, tagged, htag, hrest, tag, choice.pick, hkind]
  rfl

end Decode

/-! ## What is read -/

/-- The reader makes values that are in order of such values. -/
theorem Reader.closed_inOrder : Reader.Closed fun _ v => v.InOrder where
  null := .null
  bool b := .bool b
  num n := .num n
  str s := .str s
  arr inner := .arr inner
  obj inner := inOrder_ofFields inner

/-- **What has been read is in order.** -/
theorem inOrder_of_readChars {cs : List Char} {v : Json} (h : readChars cs = .ok v) :
    v.InOrder :=
  Reader.closed_inOrder.of_readChars h

end Colloquy.Json

namespace Colloquy.Fence

/-- **So is an answer that has been read**, with its fences or without. -/
theorem inOrder_of_readFenced {s : String} {v : Json} (h : readFenced s = .ok v) : v.InOrder :=
  Json.Reader.closed_inOrder.of_readFenced h

end Colloquy.Fence
