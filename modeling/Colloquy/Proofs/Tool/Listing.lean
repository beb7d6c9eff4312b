import Colloquy.Proofs.Text.ByteOrder
import Colloquy.Tool.Execution
import Mathlib.Data.List.Induction
import Mathlib.Data.List.Nodup

/-!
# How tools are listed

A registry that is built by registrations holds the last tool of each name (`IsLast`), and
nothing else is to be seen of how it was built. What providers are told of the tools is in the
order of the bytes of their names, no name twice, and a call reaches the handler of the tool
that was registered last (`Registry.Lists`). A map that keeps its entries in any order comes
to the same when what is in it is sorted (`Registry.Lists.sorted`).

So two sequences of registrations that end with the same tool for each name make the same
registry (`Registry.ofList_congr`).
-/

namespace Colloquy

namespace Tool

variable {t u : Tool} {ts us : List Tool} {name : String}

/-! ## The last tool of a name -/

/-- **The last tool of its name** among those that are registered. -/
def IsLast (ts : List Tool) (t : Tool) : Prop :=
  ∃ before after, ts = before ++ t :: after ∧ ∀ u ∈ after, u.name ≠ t.name

theorem IsLast.mem (h : IsLast ts t) : t ∈ ts := by
  obtain ⟨before, after, rfl, -⟩ := h
  exact List.mem_append_right before List.mem_cons_self

/-- The one that is registered next is the last one of its name. -/
theorem isLast_concat : IsLast (ts ++ [t]) u ↔ u = t ∨ IsLast ts u ∧ u.name ≠ t.name := by
  constructor
  · rintro ⟨before, after, hts, hafter⟩
    rcases List.eq_nil_or_concat after with rfl | ⟨after, v, rfl⟩
    · exact .inl (List.singleton_inj.mp (List.append_inj' hts rfl).2).symm
    · rw [List.concat_eq_append] at hts hafter
      rw [← List.cons_append, ← List.append_assoc] at hts
      obtain ⟨rfl, hv⟩ := List.append_inj' hts rfl
      obtain rfl := List.singleton_inj.mp hv
      obtain ⟨hafter, hne⟩ := List.forall_mem_append.mp hafter
      exact .inr ⟨⟨before, after, rfl, hafter⟩, (hne t List.mem_cons_self).symm⟩
  · rintro (rfl | ⟨⟨before, after, rfl, hafter⟩, hne⟩)
    · exact ⟨ts, [], rfl, List.forall_mem_nil _⟩
    · refine ⟨before, after ++ [t], List.append_assoc _ _ _, ?_⟩
      exact List.forall_mem_append.mpr ⟨hafter, List.forall_mem_singleton.mpr hne.symm⟩

/-- **Every name that is registered has a last tool.** -/
theorem exists_isLast (h : t ∈ ts) : ∃ u, IsLast ts u ∧ u.name = t.name := by
  induction ts using List.reverseRecOn with
  | nil => cases h
  | append_singleton ts v ih =>
    by_cases hname : v.name = t.name
    · exact ⟨v, isLast_concat.mpr (.inl rfl), hname⟩
    · rcases List.mem_append.mp h with h | h
      · obtain ⟨u, hu, hut⟩ := ih h
        exact ⟨u, isLast_concat.mpr (.inr ⟨hu, fun huv => hname (huv.symm.trans hut)⟩), hut⟩
      · exact absurd (congrArg Tool.name (List.mem_singleton.mp h)).symm hname

/-! ## Lists in order -/

section

variable {α : Type} {key : α → String} {l l' : List α}

/-- What comes in the order of its keys, no key twice, is told apart by them. -/
theorem eq_of_key_eq {a b : α} (h : l.Pairwise fun a b => key a < key b) (ha : a ∈ l) (hb : b ∈ l)
    (hkey : key a = key b) : a = b := by
  have hnodup : (l.map key).Nodup := (List.pairwise_map.mpr h).imp ne_of_lt
  exact List.inj_on_of_nodup_map hnodup ha hb hkey

/-- **Sorting by key** brings it back from any other order. -/
theorem mergeSort_eq_of_perm (h : l.Pairwise fun a b => key a < key b) (hperm : l'.Perm l) :
    l'.mergeSort (fun a b => key a ≤ key b) = l := by
  have hsorted : (l'.mergeSort fun a b => key a ≤ key b).Pairwise
      fun a b => decide (key a ≤ key b) = true :=
    List.pairwise_mergeSort
      (fun a b c hab hbc => by simp only [decide_eq_true_eq] at *; exact hab.trans hbc)
      (fun a b => by simpa using le_total (key a) (key b)) l'
  have hsame := (List.mergeSort_perm l' fun a b => decide (key a ≤ key b)).trans hperm
  refine hsame.eq_of_pairwise (fun a b ha hb hab hba => ?_) hsorted
    (h.imp fun hlt => decide_eq_true hlt.le)
  exact eq_of_key_eq h (hsame.subset ha) hb
    (le_antisymm (of_decide_eq_true hab) (of_decide_eq_true hba))

end

/-- **Tools in the order of their names**, no name twice. -/
def InOrder (ts : List Tool) : Prop :=
  ts.Pairwise fun t u => t.name < u.name

theorem InOrder.nodup (h : InOrder ts) : ts.Nodup :=
  h.imp fun hlt heq => (heq ▸ hlt).ne rfl

/-- **Tools in order are determined by which there are.** -/
theorem InOrder.eq_of_mem_iff (h : InOrder ts) (hus : InOrder us) (hmem : ∀ t, t ∈ us ↔ t ∈ ts) :
    us = ts := by
  have hperm : us.Perm ts := (List.perm_ext_iff_of_nodup hus.nodup h.nodup).mpr hmem
  exact hperm.eq_of_pairwise (fun t u _ _ htu hut => absurd hut htu.not_gt) hus h

/-- A tool is found by its name. -/
theorem InOrder.find?_eq_some_iff (h : InOrder ts) :
    ts.find? (fun t => t.name == name) = some t ↔ t ∈ ts ∧ t.name = name := by
  constructor
  · intro hfound
    exact ⟨List.mem_of_find?_eq_some hfound, by simpa using List.find?_some hfound⟩
  · rintro ⟨ht, rfl⟩
    obtain ⟨u, hu⟩ : ∃ u, ts.find? (fun u => u.name == t.name) = some u :=
      Option.isSome_iff_exists.mp (List.find?_isSome.mpr ⟨t, ht, beq_self_eq_true t.name⟩)
    have hname : u.name = t.name := by simpa using List.find?_some hu
    rw [hu, eq_of_key_eq h (List.mem_of_find?_eq_some hu) ht hname]

/-- **Placing a tool** keeps those of other names. -/
theorem InOrder.mem_place_iff (h : InOrder ts) :
    u ∈ Registry.place t ts ↔ u = t ∨ u ∈ ts ∧ u.name ≠ t.name := by
  induction ts with
  | nil => simp [Registry.place]
  | cons v ts ih =>
    obtain ⟨hfirst, hrest⟩ := List.pairwise_cons.mp h
    rw [Registry.place]
    split_ifs with heq hlt
    · -- behind the one that is replaced there are greater names only
      have hother : ∀ w ∈ ts, w.name ≠ t.name := fun w hw => heq ▸ (hfirst w hw).ne'
      grind
    · have hother : ∀ w ∈ v :: ts, w.name ≠ t.name := by
        intro w hw
        rcases List.mem_cons.mp hw with rfl | hw
        · exact hlt.ne'
        · exact (hlt.trans (hfirst w hw)).ne'
      grind
    · have hplaced := ih hrest
      grind

/-- **Placing a tool** keeps the order. -/
theorem InOrder.place (h : InOrder ts) (t : Tool) : InOrder (Registry.place t ts) := by
  induction ts with
  | nil => exact List.pairwise_singleton _ _
  | cons v ts ih =>
    obtain ⟨hfirst, hrest⟩ := List.pairwise_cons.mp h
    rw [Registry.place]
    split_ifs with heq hlt
    · exact List.pairwise_cons.mpr ⟨fun w hw => heq ▸ hfirst w hw, hrest⟩
    · exact List.pairwise_cons.mpr ⟨List.forall_mem_cons.mpr
        ⟨hlt, fun w hw => hlt.trans (hfirst w hw)⟩, h⟩
    · refine List.pairwise_cons.mpr ⟨fun w hw => ?_, ih hrest⟩
      rcases (mem_place_iff hrest).mp hw with rfl | ⟨hw, -⟩
      · exact lt_of_le_of_ne (le_of_not_gt hlt) (Ne.symm heq)
      · exact hfirst w hw

namespace Registry

variable {r : Registry}

theorem ofList_concat (ts : List Tool) (t : Tool) :
    ofList (ts ++ [t]) = (ofList ts).register t :=
  List.foldl_concat _ _ _ _

/-- **The tools of a registry are in order.** -/
theorem inOrder_ofList (ts : List Tool) : InOrder (ofList ts).tools := by
  induction ts using List.reverseRecOn with
  | nil => exact .nil
  | append_singleton ts t ih =>
    rw [ofList_concat]
    exact ih.place t

/-- **They are the last tools of their names.** -/
theorem mem_tools_ofList_iff : t ∈ (ofList ts).tools ↔ IsLast ts t := by
  induction ts using List.reverseRecOn with
  | nil => exact iff_of_false List.not_mem_nil fun h => absurd h.mem List.not_mem_nil
  | append_singleton ts u ih =>
    rw [ofList_concat, isLast_concat, ← ih]
    exact (inOrder_ofList ts).mem_place_iff

/-- **Registries are the same** if the last tools are. -/
theorem ofList_congr (h : ∀ t, IsLast us t ↔ IsLast ts t) : ofList us = ofList ts := by
  have htools : (ofList us).tools = (ofList ts).tools :=
    (inOrder_ofList ts).eq_of_mem_iff (inOrder_ofList us) fun t => by
      rw [mem_tools_ofList_iff, mem_tools_ofList_iff, h]
  exact congrArg Registry.mk htools

/-- **A registry lists registrations**: it has the last tool of each name, once, and comes to
what is registered by name only. -/
structure Lists (r : Registry) (ts : List Tool) : Prop where
  /-- What providers are told is in the order of the bytes of the names, no name twice. -/
  increasing : r.definitions.Pairwise fun d e => Files.encode d.name < Files.encode e.name
  /-- They are told of the last tool of each name. -/
  described : ∀ d, d ∈ r.definitions ↔ ∃ t, IsLast ts t ∧ t.definition = d
  /-- That is one for each name that is registered. -/
  registered : ∀ name, (∃ d ∈ r.definitions, d.name = name) ↔ ∃ t ∈ ts, t.name = name
  /-- The names are the ones they are told, in the same order. -/
  names : r.names = r.definitions.map Definition.name
  /-- It is what sorting makes of the last tools in any order. -/
  sorted : ∀ values : List Tool, values.Nodup → (∀ t, t ∈ values ↔ IsLast ts t) →
    (values.map Tool.definition).mergeSort (fun d e => d.name ≤ e.name) = r.definitions
      ∧ (values.map Tool.name).mergeSort (fun n m => n ≤ m) = r.names
  /-- The last tool of a name is found under it. -/
  found : ∀ name t, r.find? name = some t ↔ IsLast ts t ∧ t.name = name
  /-- Nothing is found under any other name. -/
  missing : ∀ name, r.find? name = none ↔ ∀ t ∈ ts, t.name ≠ name
  /-- A call is brought to the handler of the last tool of its name. -/
  dispatched : ∀ context past call name conduct,
    dispatch r context past call = .ok (name, conduct) ↔
      ∃ arguments t, call.resolve = .ok (name, arguments) ∧ IsLast ts t ∧ t.name = name
        ∧ conduct = t.handler ⟨past.count name, arguments, context⟩

/-- **A tool is found under its name** if it is the last one. -/
theorem find?_ofList_eq_some_iff :
    (ofList ts).find? name = some t ↔ IsLast ts t ∧ t.name = name := by
  rw [find?, (inOrder_ofList ts).find?_eq_some_iff, mem_tools_ofList_iff]

/-- **Nothing is found under a name** that is not registered. -/
theorem find?_ofList_eq_none_iff : (ofList ts).find? name = none ↔ ∀ t ∈ ts, t.name ≠ name := by
  constructor
  · rintro hnone t ht rfl
    obtain ⟨u, hu, hname⟩ := exists_isLast ht
    rw [find?_ofList_eq_some_iff.mpr ⟨hu, hname⟩] at hnone
    cases hnone
  · intro hother
    cases hfound : (ofList ts).find? name with
    | none => rfl
    | some t =>
      obtain ⟨hlast, hname⟩ := find?_ofList_eq_some_iff.mp hfound
      exact absurd hname (hother t hlast.mem)

theorem mem_definitions_ofList_iff {d : Definition} :
    d ∈ (ofList ts).definitions ↔ ∃ t, IsLast ts t ∧ t.definition = d := by
  simp only [definitions, List.mem_map, mem_tools_ofList_iff]

/-- A call is brought to a handler if it resolves and there is a tool of its name. -/
theorem dispatch_eq_ok_iff {context : Context} {past : List String} {call : ToolCall}
    {conduct : Conduct} :
    dispatch r context past call = .ok (name, conduct) ↔
      ∃ arguments t, call.resolve = .ok (name, arguments) ∧ r.find? name = some t
        ∧ conduct = t.handler ⟨past.count name, arguments, context⟩ := by
  unfold dispatch
  cases call.resolve with
  | error f => simp [bind, Except.bind]
  | ok resolved =>
    obtain ⟨n, arguments⟩ := resolved
    simp only [bind, Except.bind]
    cases hfound : r.find? n with
    | none =>
      refine iff_of_false nofun ?_
      rintro ⟨_, t, ⟨⟩, ht, -⟩
      exact absurd (hfound.symm.trans ht) nofun
    | some t =>
      constructor
      · rintro ⟨⟩
        exact ⟨arguments, t, rfl, hfound, rfl⟩
      · rintro ⟨_, u, ⟨⟩, hu, rfl⟩
        rw [Option.some.inj (hfound.symm.trans hu)]

/-- **What is registered is listed.** -/
theorem lists_ofList (ts : List Tool) : (ofList ts).Lists ts where
  increasing := by
    refine List.pairwise_map.mpr ((inOrder_ofList ts).imp fun hlt => ?_)
    exact Files.encode_lt_encode_iff.mpr hlt
  described d := mem_definitions_ofList_iff
  registered name := by
    constructor
    · rintro ⟨d, hd, rfl⟩
      obtain ⟨t, ht, rfl⟩ := mem_definitions_ofList_iff.mp hd
      exact ⟨t, ht.mem, rfl⟩
    · rintro ⟨t, ht, rfl⟩
      obtain ⟨u, hu, hname⟩ := exists_isLast ht
      exact ⟨u.definition, mem_definitions_ofList_iff.mpr ⟨u, hu, rfl⟩, hname⟩
  names := List.map_map.symm
  sorted values hnodup hvalues := by
    have hperm : values.Perm (ofList ts).tools :=
      (List.perm_ext_iff_of_nodup hnodup (inOrder_ofList ts).nodup).mpr fun t =>
        (hvalues t).trans mem_tools_ofList_iff.symm
    constructor
    · exact mergeSort_eq_of_perm (List.pairwise_map.mpr (inOrder_ofList ts)) (hperm.map _)
    · exact mergeSort_eq_of_perm (List.pairwise_map.mpr (inOrder_ofList ts)) (hperm.map _)
  found name t := find?_ofList_eq_some_iff
  missing name := find?_ofList_eq_none_iff
  dispatched context past call name conduct := by
    simp only [dispatch_eq_ok_iff, find?_ofList_eq_some_iff, and_assoc]

end Registry

end Tool

end Colloquy
