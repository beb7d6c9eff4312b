import Colloquy.Proofs.Answer.Contract

/-!
# What a validator takes, and as what

A validator takes a candidate exactly if it can be read and keeps to the contract, and what
it then has is the normal form of the value that was read (`Validator.receive_keeps_contract`).
The normal form is made from the value alone (`normalForm`): the kind, the content and the
flag are those of the value, attachments and hints that are missing or left open are empty,
and there is nothing else.

Whether a value is taken is decided twice, by the list of its violations and by the decoder.
The decoder never has the last word: a value without violations decodes, and so a value
that is not taken is always told all of its violations.
-/

namespace Colloquy.Answer

open Json (Fields)

/-! ## The normal form -/

/-- **The value at the end of a path** of names, if there is one. -/
def along? (path : List String) (v : Json) : Option Json :=
  path.foldlM Json.field? v

/-- The hints there are: the one about link previews, or none. -/
def hintFields : Option Bool → Fields
  | some b => [("disable_link_preview", .bool b)]
  | none => []

/-- The items of a list, none if there is no list. -/
def itemsOf : Option Json → List Json
  | some (.arr items) => items
  | _ => []

/-- **The normal form of a value** that says an answer: what it has to have, and what it may
have or empty things in their place. -/
def normalForm (v : Json) : Json :=
  .obj
    [("answer", .obj
        [("content", (along? ["answer", "content"] v).getD .null),
         ("kind", (along? ["answer", "kind"] v).getD .null),
         ("meta", .obj (hintFields
            ((along? ["answer", "meta", "disable_link_preview"] v).bind Json.bool?)))]),
     ("attachments", .arr (itemsOf (along? ["attachments"] v))),
     ("should_answer_to_user", (along? ["should_answer_to_user"] v).getD .null)]

theorem metaJson_eq (a : Answer) : a.metaJson = .obj (hintFields a.disableLinkPreview) := by
  unfold metaJson hintFields
  cases a.disableLinkPreview <;> rfl

/-- **The normal form of an answer, field by field.** -/
theorem toJson_eq (a : Answer) :
    a.toJson = .obj
      [("answer", .obj
          [("content", .str a.content), ("kind", .str a.kind.name),
           ("meta", .obj (hintFields a.disableLinkPreview))]),
       ("attachments", .arr (a.attachments.map .obj)),
       ("should_answer_to_user", .bool a.shouldAnswer)] := by
  have hbody (m : Json) :
      Fields.ofList [("kind", .str a.kind.name), ("content", .str a.content), ("meta", m)]
        = [("content", .str a.content), ("kind", .str a.kind.name), ("meta", m)] := by
    refine Fields.ofList_eq_of_perm (Fields.sorted_iff_names.mpr ?_) (.swap _ _ _)
    show ["content", "kind", "meta"].Pairwise (· < ·)
    decide
  unfold toJson Json.ofFields
  rw [metaJson_eq, hbody]
  refine congrArg Json.obj (Fields.ofList_eq_of_perm (Fields.sorted_iff_names.mpr ?_)
    ((List.Perm.swap _ _ _).cons _))
  show ["answer", "attachments", "should_answer_to_user"].Pairwise (· < ·)
  decide

variable {fields : Fields} {v : Json} {a : Answer}

theorem along?_obj {name : String} {path : List String} (h : fields.find? name = some v) :
    along? (name :: path) (.obj fields) = along? path v := by
  show (Fields.find? fields name).bind _ = _
  rw [h]
  rfl

theorem along?_obj_of_none {name : String} {path : List String} (h : fields.find? name = none) :
    along? (name :: path) (.obj fields) = none := by
  show (Fields.find? fields name).bind _ = _
  rw [h]
  rfl

theorem along?_singleton (name : String) (fields : Fields) :
    along? [name] (.obj fields) = fields.find? name := by
  show (Fields.find? fields name).bind some = _
  rw [Option.bind_fun_some]

/-- The hint that is said is the one at its place. -/
theorem SaysHints.along?_eq {hint : Option Bool} (h : SaysHints (fields.find? "meta") hint) :
    (along? ["meta", "disable_link_preview"] (.obj fields)).bind Json.bool? = hint := by
  cases hfind : fields.find? "meta" with
  | none =>
    rw [along?_obj_of_none hfind]
    rw [hfind] at h
    cases h
    rfl
  | some v =>
    rw [along?_obj hfind]
    rw [hfind] at h
    cases h with
    | null => rfl
    | @given inner hint known preview =>
      show ((Fields.find? inner "disable_link_preview").bind some).bind Json.bool? = hint
      generalize Fields.find? inner "disable_link_preview" = v at preview
      cases preview <;> rfl

/-- The attachments that are said are the items at their place. -/
theorem SaysAttachments.itemsOf_eq {v : Option Json} {items : List Fields}
    (h : SaysAttachments v items) : itemsOf v = items.map .obj := by
  cases h <;> rfl

/-- **An answer that is said has the normal form of the value that says it.** -/
theorem Says.toJson_eq_normalForm (h : Says v a) : a.toJson = normalForm v := by
  cases h with
  | @intro fields inner a known answer body flag attachments =>
    cases body with
    | @intro inner body known kind content visible hints =>
      rw [toJson_eq, normalForm]
      simp only [along?_obj answer, along?_obj kind, along?_obj content, along?_obj flag,
        hints.along?_eq, along?_singleton, attachments.itemsOf_eq]
      rfl

/-! ## The verdict -/

/-- **Why a candidate was not taken**, if it was not. -/
def Verdict.rejection? : Verdict → Option Rejection
  | .valid _ _ => none
  | .retry r _ => some r
  | .fail r _ _ => some r

variable {candidate : String}

/-- A value with violations is told all of them. -/
theorem accept_eq_error (h : violations v ≠ []) :
    accept v = .error ⟨breaksContract, (violations v).map Violation.message⟩ := by
  unfold accept
  split
  · contradiction
  · rfl

/-- A candidate that can be read is checked as the value it is. -/
theorem check_eq_accept (h : Fence.readFenced (Text.trim candidate) = .ok v) :
    check candidate = accept v := by
  unfold check
  rw [h]

namespace Validator

variable (w : Validator)

/-- A validator says what the check says, and counts. -/
theorem receive_of_ok (h : check candidate = .ok a) :
    (w.receive candidate).2 = .valid a (w.attempts + 1) := by
  unfold receive
  rw [h]

/-- It hands on why a candidate was not taken, whether it may be tried again or not. -/
theorem rejection?_receive_of_error {r : Rejection} (h : check candidate = .error r) :
    (w.receive candidate).2.rejection? = some r := by
  unfold receive
  rw [h]
  dsimp only
  split <;> rfl

/-- **A validator takes a candidate exactly if it gives an answer**, for that answer. -/
theorem receive_eq_valid_iff {n : Nat} :
    (w.receive candidate).2 = .valid a n ↔ n = w.attempts + 1 ∧ Gives candidate a := by
  constructor
  · intro h
    have hgives := gives_of_valid h
    rw [receive_of_ok w (check_eq_ok_iff.mpr hgives)] at h
    cases h
    exact ⟨rfl, hgives⟩
  · rintro ⟨rfl, hgives⟩
    exact receive_of_ok w (check_eq_ok_iff.mpr hgives)

/-- **A validator keeps to the contract.** It takes a candidate exactly if it can be read as
a value that says an answer. What it then has is the normal form of that value. The decoder
takes whatever has no violations, and a value that is not taken is told all of them. -/
theorem receive_keeps_contract (candidate : String) :
    (∀ a n, (w.receive candidate).2 = .valid a n ↔
      n = w.attempts + 1 ∧
        ∃ v, Fence.readFenced (Text.trim candidate) = .ok v ∧ Says v a) ∧
    ∀ v, Fence.readFenced (Text.trim candidate) = .ok v →
      (∀ a, Says v a → a.toJson = normalForm v) ∧
      (violations v = [] → ∃ a, ofJson v = .ok a ∧ Says v a) ∧
      (w.receive candidate).2.rejection?
        = if violations v = [] then none
          else some ⟨breaksContract, (violations v).map Violation.message⟩ := by
  refine ⟨fun a n => receive_eq_valid_iff w, fun v hread => ?_⟩
  have hdecodes : violations v = [] → ∃ a, ofJson v = .ok a ∧ Says v a := fun hnone => by
    obtain ⟨a, ha⟩ := violations_eq_nil_iff.mp hnone
    exact ⟨a, ha.ofJson_eq (Fence.inOrder_of_readFenced hread), ha⟩
  refine ⟨fun a ha => ha.toJson_eq_normalForm, hdecodes, ?_⟩
  split_ifs with hnone
  · obtain ⟨a, -, ha⟩ := hdecodes hnone
    rw [receive_of_ok w (check_eq_ok_iff.mpr ⟨v, hread, ha⟩)]
    rfl
  · exact rejection?_receive_of_error w ((check_eq_accept hread).trans (accept_eq_error hnone))

end Validator

end Colloquy.Answer
