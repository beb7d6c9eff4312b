import Colloquy.Proofs.Answer.Acceptance
import Colloquy.Proofs.Fence

/-!
# What is taken is taken again

The normal form of an answer that was taken, written out, is itself taken by any validator,
and for the same answer – as it is or between fences (`Validator.receive_toJson`).

An answer's normal form is in order and fits the levels of the reader because the value it
was taken from is and does: attachments are as deep in the one as in the other, and all the
rest is flat. What the encoder writes is what the contract allows (`says_toJson`), so only
the doubles among the attachments are left, which have to read back.
-/

namespace Colloquy.Answer

open Json (Fields)

variable {v : Json} {a : Answer}

/-- Attachments that are there are those of the value they were taken from. -/
theorem Says.attachments_mem (h : Says v a) (hsome : a.attachments ≠ []) :
    ∃ fields, v = .obj fields ∧ ("attachments", .arr (a.attachments.map .obj)) ∈ fields := by
  cases h with
  | @intro fields inner a known answer body flag attachments =>
    refine ⟨fields, rfl, Fields.mem_of_find?_eq_some ?_⟩
    generalize fields.find? "attachments" = given at attachments
    generalize a.attachments = items at attachments hsome
    cases attachments with
    | absent => exact absurd rfl hsome
    | null => exact absurd rfl hsome
    | given => rfl

/-- Attachments are in order if the value they were taken from is. -/
theorem Says.attachments_inOrder (h : Says v a) (hv : v.InOrder) :
    ∀ item ∈ a.attachments, (Json.obj item).InOrder := by
  intro item hitem
  obtain ⟨fields, rfl, hmem⟩ := h.attachments_mem (List.ne_nil_of_mem hitem)
  cases hv with
  | obj _ hfields =>
    have hitems := hfields _ hmem
    cases hitems with
    | arr hitems => exact hitems _ (List.mem_map_of_mem hitem)

/-- They fit into the levels that are left for them there. -/
theorem Says.attachments_fit {depth : Nat} (h : Says v a) (hv : v.Fits (depth + 2)) :
    ∀ item ∈ a.attachments, (Json.obj item).Fits depth := by
  intro item hitem
  obtain ⟨fields, rfl, hmem⟩ := h.attachments_mem (List.ne_nil_of_mem hitem)
  cases hv with
  | obj hfields =>
    have hitems := hfields _ hmem
    cases hitems with
    | arr hitems => exact hitems _ (List.mem_map_of_mem hitem)

theorem inOrder_hints (hint : Option Bool) : (Json.obj (hintFields hint)).InOrder := by
  cases hint with
  | none => exact .obj .nil fun e he => by cases he
  | some b => exact .obj (List.pairwise_singleton _ _) (List.forall_mem_singleton.mpr (.bool b))

theorem fits_hints {depth : Nat} (hint : Option Bool) :
    (Json.obj (hintFields hint)).Fits (depth + 1) := by
  cases hint with
  | none => exact .obj fun e he => by cases he
  | some b => exact .obj (List.forall_mem_singleton.mpr (.bool b))

/-- The normal form of an answer is in order if its attachments are. -/
theorem inOrder_toJson (h : ∀ item ∈ a.attachments, (Json.obj item).InOrder) :
    a.toJson.InOrder := by
  have hmeta : a.metaJson.InOrder := metaJson_eq a ▸ inOrder_hints a.disableLinkPreview
  have hbody : (Json.ofFields [("kind", .str a.kind.name), ("content", .str a.content),
      ("meta", a.metaJson)]).InOrder :=
    Json.inOrder_ofFields (List.forall_mem_cons.mpr ⟨.str _,
      List.forall_mem_cons.mpr ⟨.str _, List.forall_mem_singleton.mpr hmeta⟩⟩)
  have hattachments : (Json.arr (a.attachments.map .obj)).InOrder :=
    .arr (List.forall_mem_map.mpr h)
  exact Json.inOrder_ofFields (List.forall_mem_cons.mpr ⟨hbody,
    List.forall_mem_cons.mpr ⟨.bool _, List.forall_mem_singleton.mpr hattachments⟩⟩)

/-- It needs three levels for itself, two of them around the attachments. -/
theorem fits_toJson {depth : Nat}
    (h : ∀ item ∈ a.attachments, (Json.obj item).Fits (depth + 1)) :
    a.toJson.Fits (depth + 3) := by
  have hattachments : (Json.arr (a.attachments.map .obj)).Fits (depth + 2) :=
    .arr (List.forall_mem_map.mpr h)
  rw [toJson_eq]
  refine .obj (List.forall_mem_cons.mpr ⟨.obj (List.forall_mem_cons.mpr ⟨.str _,
    List.forall_mem_cons.mpr ⟨.str _, List.forall_mem_singleton.mpr (fits_hints _)⟩⟩),
    List.forall_mem_cons.mpr ⟨hattachments, List.forall_mem_singleton.mpr (.bool _)⟩⟩)

/-- **The normal form of an answer that is given is read back**, if its doubles are. -/
theorem Gives.readChars_toJson {candidate : String} (h : Gives candidate a)
    (hnumbers : ∀ x, Json.Occurs (.real x) a.toJson → (Json.Number.real x).ReadsBack) :
    Json.readChars a.toJson.print = .ok a.toJson := by
  obtain ⟨v, hread, hpayload⟩ := h
  have hfits : v.Fits Json.Reader.greatestDepth := Json.Reader.closed_fits.of_readFenced hread
  exact Json.readChars_print (fits_toJson (hpayload.attachments_fit hfits))
    (inOrder_toJson (hpayload.attachments_inOrder (Fence.inOrder_of_readFenced hread))) hnumbers

namespace Validator

/-- **What is taken is taken again.** If a candidate was taken, then the normal form of its
answer is taken by any validator, as it is or between fences, and for the same answer. Only
the doubles in it have to read back. -/
theorem receive_toJson (w w' : Validator) {candidate : String} {n : Nat}
    (h : (w.receive candidate).2 = .valid a n)
    (hnumbers : ∀ x, Json.Occurs (.real x) a.toJson → (Json.Number.real x).ReadsBack) :
    (w'.receive a.toJson.compact).2 = .valid a (w'.attempts + 1) ∧
    ∀ tag before after : List Char, Fence.afterJsonTag? tag = some [] →
      (∀ c ∈ before, Text.isBlank c = true) → (∀ c ∈ after, Text.isBlank c = true) →
      (w'.receive (String.ofList (Fence.fenced tag before a.toJson.print after))).2
        = .valid a (w'.attempts + 1) := by
  have hgives := gives_of_valid h
  have hread := hgives.readChars_toJson hnumbers
  obtain ⟨v, -, hpayload⟩ := hgives
  have hagain : Says a.toJson a := hpayload.toJson
  rw [toJson_eq] at hread hagain ⊢
  constructor
  · exact receive_of_ok w' (check_eq_ok_iff.mpr ⟨_, Fence.readFenced_print hread, hagain⟩)
  · intro tag before after htag hbefore hafter
    exact receive_of_ok w' (check_eq_ok_iff.mpr
      ⟨_, Fence.readFenced_fenced hread htag hbefore hafter, hagain⟩)

end Validator

/-- One half. -/
def half : Decimal.Double := ⟨false, 0x3FE0000000000000, by decide⟩

/-- A text that gives an answer to which a measurement is attached. -/
def measuredText : String :=
  "\x7b\"attachments\":[\x7b\"size\":5e-1\x7d], \"should_answer_to_user\":true,"
    ++ "\"answer\":\x7b\"kind\":\"text\",\"content\":\"A\",\"meta\":null\x7d\x7d"

/-- That answer. -/
def measured : Answer where
  kind := .text
  content := "A"
  shouldAnswer := true
  attachments := [[("size", .num (.real half))]]

namespace Validator

set_option maxRecDepth 20000 in
theorem receive_toJson_measured :
    ((ofAttempts 2).receive measuredText).2 = .valid measured 1 ∧
    (∀ x, Json.Occurs (.real x) measured.toJson → (Json.Number.real x).ReadsBack) ∧
    ((ofAttempts 3).receive measured.toJson.compact).2 = .valid measured 1 ∧
    ((ofAttempts 3).receive (String.ofList
      (Fence.fenced "JSON".toList ['\n'] measured.toJson.print ['\n', '\n']))).2
        = .valid measured 1 := by
  have htaken : ((ofAttempts 2).receive measuredText).2 = .valid measured 1 := by
    with_unfolding_all rfl
  have hnumbers : ∀ x, Json.Occurs (.real x) measured.toJson →
      (Json.Number.real x).ReadsBack := by
    intro x hx
    rw [toJson_eq] at hx
    obtain rfl : x = half := by simpa [measured, hintFields] using hx
    show Json.Numeral.read _ = _
    decide +kernel
  obtain ⟨hplain, hfenced⟩ := receive_toJson _ (ofAttempts 3) htaken hnumbers
  refine ⟨htaken, hnumbers, hplain, hfenced _ _ _ rfl ?_ ?_⟩ <;>
    simp [Text.isBlank]

end Validator

end Colloquy.Answer
