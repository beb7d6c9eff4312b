import Colloquy.Answer.Validator
import Colloquy.Proofs.Json.Order

/-!
# What an answer must say

A value **says** an answer if it is laid out as the contract has it: an object with
the answer proper, whose kind is known and whose content is not blank, a flag, perhaps
attachments, and nothing else (`Says`). A value has no violations exactly if it says
something (`violations_eq_nil_iff`), and then it decodes to what it says
(`Says.ofJson_eq`) – as long as it is in order, as all values are that were read; in an
object with two fields of one name the contract sees the first and the decoder both.

So a candidate is taken exactly if it can be read and says an answer
(`check_eq_ok_iff`), and the normal form of what is taken says the same
(`Says.toJson`), as does what the engine puts in the place of an answer
(`says_plain`).
-/

namespace Colloquy.Answer

open Json (Fields)
open Json.Decode (choice list nullable needed whenGiven withDefault needed_of_some
  whenGiven_of_some whenGiven_of_none)

/-- **What a hint about link previews says**, if there is one. -/
inductive SaysPreview : Option Json → Option Bool → Prop
  /-- There is none. -/
  | absent : SaysPreview none none
  /-- It is left open. -/
  | null : SaysPreview (some .null) none
  /-- It is given. -/
  | given (b : Bool) : SaysPreview (some (.bool b)) (some b)

/-- **What hints say**, if there are any. -/
inductive SaysHints : Option Json → Option Bool → Prop
  /-- There are none. -/
  | absent : SaysHints none none
  /-- They are left open. -/
  | null : SaysHints (some .null) none
  /-- They are given: there is one hint that may be. -/
  | given {fields : Fields} {hint : Option Bool}
      (known : ∀ name ∈ fields.names, name ∈ ["disable_link_preview"])
      (preview : SaysPreview (fields.find? "disable_link_preview") hint) :
      SaysHints (some (.obj fields)) hint

/-- **What the inner object of an answer says.** -/
inductive SaysBody : Json → Body → Prop
  /-- It has a kind that is known and a content that can be seen. -/
  | intro {fields : Fields} {body : Body}
      (known : ∀ name ∈ fields.names, name ∈ ["kind", "content", "meta"])
      (kind : fields.find? "kind" = some (.str body.kind.name))
      (content : fields.find? "content" = some (.str body.content))
      (visible : Text.isBlankText body.content = false)
      (hints : SaysHints (fields.find? "meta") body.disableLinkPreview) :
      SaysBody (.obj fields) body

/-- **What attachments are**, if there are any. -/
inductive SaysAttachments : Option Json → List Fields → Prop
  /-- There are none. -/
  | absent : SaysAttachments none []
  /-- They are left open. -/
  | null : SaysAttachments (some .null) []
  /-- They are objects. -/
  | given (items : List Fields) : SaysAttachments (some (.arr (items.map .obj))) items

/-- What the inner object of an answer holds. -/
def body (a : Answer) : Body :=
  ⟨a.kind, a.content, a.disableLinkPreview⟩

/-- **A value says an answer.** -/
inductive Says : Json → Answer → Prop
  /-- It has an inner object and a flag. -/
  | intro {fields : Fields} {inner : Json} {a : Answer}
      (known : ∀ name ∈ fields.names, name ∈ ["answer", "should_answer_to_user", "attachments"])
      (answer : fields.find? "answer" = some inner) (body : SaysBody inner a.body)
      (flag : fields.find? "should_answer_to_user" = some (.bool a.shouldAnswer))
      (attachments : SaysAttachments (fields.find? "attachments") a.attachments) :
      Says (.obj fields) a

/-! ## No violations -/

theorem unexpectedFields_eq_nil_iff {fields : Fields} {known : List String} {above : String} :
    unexpectedFields fields known above = [] ↔ ∀ name ∈ fields.names, name ∈ known := by
  simp [unexpectedFields, List.filter_eq_nil_iff]

theorem previewViolations_eq_nil_iff {v : Option Json} :
    previewViolations v = [] ↔ ∃ hint, SaysPreview v hint := by
  constructor
  · intro h
    unfold previewViolations at h
    split at h
    · exact ⟨none, .absent⟩
    · exact ⟨none, .null⟩
    · exact ⟨some _, .given _⟩
    · cases h
  · rintro ⟨hint, h⟩
    cases h <;> rfl

theorem metaViolations_eq_nil_iff {v : Option Json} :
    metaViolations v = [] ↔ ∃ hint, SaysHints v hint := by
  constructor
  · intro h
    unfold metaViolations at h
    split at h
    · exact ⟨none, .absent⟩
    · exact ⟨none, .null⟩
    · rw [List.append_eq_nil_iff, unexpectedFields_eq_nil_iff, previewViolations_eq_nil_iff] at h
      obtain ⟨hknown, hint, hpreview⟩ := h
      exact ⟨hint, .given hknown hpreview⟩
    · cases h
  · rintro ⟨hint, h⟩
    cases h with
    | absent => rfl
    | null => rfl
    | given known preview =>
      show _ ++ _ = []
      rw [List.append_eq_nil_iff, unexpectedFields_eq_nil_iff, previewViolations_eq_nil_iff]
      exact ⟨known, hint, preview⟩

/-- A kind is found by its name, and by nothing else. -/
theorem Kind.lookup_byName_eq_some_iff {s : String} {k : Kind} :
    byName.lookup s = some k ↔ s = k.name := by
  constructor
  · intro h
    obtain ⟨before, after, hsplit, -⟩ := List.lookup_eq_some_iff.mp h
    have hmem : (s, k) ∈ byName := hsplit ▸ List.mem_append_right _ List.mem_cons_self
    obtain ⟨k', -, heq⟩ := List.mem_map.mp hmem
    cases heq
    rfl
  · rintro rfl
    cases k <;> rfl

theorem kindViolations_eq_nil_iff {v : Option Json} :
    kindViolations v = [] ↔ ∃ k : Kind, v = some (.str k.name) := by
  constructor
  · intro h
    unfold kindViolations at h
    split at h
    · rename_i s hs
      split_ifs at h with hknown
      obtain ⟨k, hk⟩ := Option.isSome_iff_exists.mp hknown
      obtain ⟨w, rfl, hw⟩ := Option.bind_eq_some_iff.mp hs
      cases w <;> cases hw
      exact ⟨k, congrArg (fun s => some (Json.str s)) (Kind.lookup_byName_eq_some_iff.mp hk)⟩
    · cases h
  · rintro ⟨k, rfl⟩
    cases k <;> rfl

theorem contentViolations_eq_nil_iff {v : Option Json} :
    contentViolations v = [] ↔ ∃ s, v = some (.str s) ∧ Text.isBlankText s = false := by
  constructor
  · intro h
    unfold contentViolations at h
    split at h
    · rename_i s
      refine ⟨s, rfl, ?_⟩
      split_ifs at h with hblank
      exact Bool.eq_false_iff.mpr hblank
    · cases h
    · cases h
  · rintro ⟨s, rfl, hs⟩
    exact if_neg (ne_true_of_eq_false hs)

theorem bodyViolations_eq_nil_iff {v : Option Json} :
    bodyViolations v = [] ↔ ∃ inner body, v = some inner ∧ SaysBody inner body := by
  constructor
  · intro h
    unfold bodyViolations at h
    split at h
    · cases h
    · simp only [List.append_eq_nil_iff, unexpectedFields_eq_nil_iff, kindViolations_eq_nil_iff,
        contentViolations_eq_nil_iff, metaViolations_eq_nil_iff] at h
      obtain ⟨⟨⟨hknown, k, hk⟩, s, hs, hvisible⟩, hint, hhints⟩ := h
      exact ⟨_, ⟨k, s, hint⟩, rfl, .intro hknown hk hs hvisible hhints⟩
    · cases h
  · rintro ⟨inner, body, rfl, h⟩
    cases h with
    | intro known kind content visible hints =>
      show _ ++ _ ++ _ ++ _ = []
      simp only [List.append_eq_nil_iff, unexpectedFields_eq_nil_iff, kindViolations_eq_nil_iff,
        contentViolations_eq_nil_iff, metaViolations_eq_nil_iff]
      exact ⟨⟨⟨known, _, kind⟩, _, content, visible⟩, _, hints⟩

theorem flagViolations_eq_nil_iff {v : Option Json} :
    flagViolations v = [] ↔ ∃ b, v = some (.bool b) := by
  constructor
  · intro h
    unfold flagViolations at h
    split at h
    · exact ⟨_, rfl⟩
    · cases h
    · cases h
  · rintro ⟨b, rfl⟩
    rfl

theorem itemViolations_eq_nil_iff {n : Nat} {items : List Json} :
    itemViolations n items = [] ↔ ∃ objects : List Fields, items = objects.map .obj := by
  induction items generalizing n with
  | nil => exact iff_of_true rfl ⟨[], rfl⟩
  | cons v rest ih =>
    cases v with
    | obj fields =>
      rw [itemViolations, ih]
      constructor
      · rintro ⟨objects, rfl⟩
        exact ⟨fields :: objects, rfl⟩
      · rintro ⟨objects, h⟩
        obtain ⟨first, others, -, -, hothers⟩ := List.map_eq_cons_iff.mp h.symm
        exact ⟨others, hothers.symm⟩
    | _ =>
      refine iff_of_false (List.cons_ne_nil _ _) ?_
      rintro ⟨objects, h⟩
      obtain ⟨first, others, -, hfirst, -⟩ := List.map_eq_cons_iff.mp h.symm
      cases hfirst

theorem attachmentViolations_eq_nil_iff {v : Option Json} :
    attachmentViolations v = [] ↔ ∃ items, SaysAttachments v items := by
  constructor
  · intro h
    unfold attachmentViolations at h
    split at h
    · exact ⟨[], .absent⟩
    · exact ⟨[], .null⟩
    · obtain ⟨objects, rfl⟩ := itemViolations_eq_nil_iff.mp h
      exact ⟨objects, .given objects⟩
    · cases h
  · rintro ⟨items, h⟩
    cases h with
    | absent => rfl
    | null => rfl
    | given => exact itemViolations_eq_nil_iff.mpr ⟨items, rfl⟩

/-- **A value has no violations exactly if it says an answer.** -/
theorem violations_eq_nil_iff {v : Json} : violations v = [] ↔ ∃ a, Says v a := by
  constructor
  · intro h
    unfold violations at h
    split at h
    · simp only [List.append_eq_nil_iff, unexpectedFields_eq_nil_iff, bodyViolations_eq_nil_iff,
        flagViolations_eq_nil_iff, attachmentViolations_eq_nil_iff] at h
      obtain ⟨⟨⟨hknown, inner, body, hinner, hbody⟩, b, hb⟩, items, hitems⟩ := h
      exact ⟨⟨body.kind, body.content, body.disableLinkPreview, b, items⟩,
        .intro hknown hinner hbody hb hitems⟩
    · cases h
  · rintro ⟨a, h⟩
    cases h with
    | intro known answer body flag attachments =>
      show _ ++ _ ++ _ ++ _ = []
      simp only [List.append_eq_nil_iff, unexpectedFields_eq_nil_iff, bodyViolations_eq_nil_iff,
        flagViolations_eq_nil_iff, attachmentViolations_eq_nil_iff]
      exact ⟨⟨⟨known, _, _, answer, body⟩, _, flag⟩, _, attachments⟩

/-! ## What is said is decoded -/

variable {fields : Fields} {v : Json} {a : Answer} {hint : Option Bool} {body : Body}
variable {items : List Fields}

/-- A hint about link previews is decoded. -/
theorem SaysPreview.nullable_eq (h : SaysPreview (some v) hint) :
    nullable Json.Decode.flag v = .ok hint := by
  cases h <;> rfl

/-- It may be missing. -/
theorem SaysPreview.whenGiven_eq {name : String} (h : SaysPreview (fields.find? name) hint) :
    whenGiven fields name Json.Decode.flag = .ok hint := by
  cases hfind : fields.find? name with
  | none =>
    rw [hfind] at h
    cases h
    exact whenGiven_of_none hfind
  | some v => exact (whenGiven_of_some hfind).trans (hfind ▸ h).nullable_eq

/-- **Hints are decoded.** -/
theorem SaysHints.nullable_eq (h : SaysHints (some v) hint) (hv : v.InOrder) :
    ∃ outer, nullable metaOfJson v = .ok outer ∧ outer.join = hint := by
  cases h with
  | null => exact ⟨none, rfl, rfl⟩
  | @given fields hint known preview =>
    cases hv with
    | obj sorted inner =>
      have hread : metaLayout.read (.obj fields) = .ok fields := by
        refine Json.Decode.Record.read_obj_of_sorted sorted known fun rule hrule v hv => ?_
        cases List.mem_singleton.mp hrule
        exact Json.Decode.Rule.accept_allows (hv ▸ preview : SaysPreview (some v) hint).nullable_eq
      refine ⟨some hint, ?_, rfl⟩
      show (metaOfJson (.obj fields)).map some = _
      simp only [metaOfJson, hread, Json.Decode.ok_bind, preview.whenGiven_eq]
      rfl

/-- They may be missing. -/
theorem SaysHints.whenGiven_eq {name : String} (h : SaysHints (fields.find? name) hint)
    (hfields : ∀ e ∈ fields, e.2.InOrder) :
    ∃ outer, whenGiven fields name metaOfJson = .ok outer ∧ outer.join = hint := by
  cases hfind : fields.find? name with
  | none =>
    rw [hfind] at h
    cases h
    exact ⟨none, whenGiven_of_none hfind, rfl⟩
  | some v =>
    rw [whenGiven_of_some hfind]
    exact (hfind ▸ h).nullable_eq (hfields _ (Fields.mem_of_find?_eq_some hfind))

/-- Objects are decoded as they are. -/
theorem list_fields (items : List Fields) :
    list Json.Decode.fields (.arr (items.map .obj)) = .ok items :=
  Json.Decode.list_map_self fun _ _ => rfl

/-- **Attachments are decoded.** -/
theorem SaysAttachments.nullable_eq (h : SaysAttachments (some v) items) :
    ∃ outer, nullable (list Json.Decode.fields) v = .ok outer ∧ outer.getD [] = items := by
  cases h with
  | null => exact ⟨none, rfl, rfl⟩
  | given items => exact ⟨some items, congrArg (Except.map some) (list_fields items), rfl⟩

/-- They may be missing. -/
theorem SaysAttachments.whenGiven_eq {name : String}
    (h : SaysAttachments (fields.find? name) items) :
    ∃ outer, whenGiven fields name (list Json.Decode.fields) = .ok outer
      ∧ outer.getD [] = items := by
  cases hfind : fields.find? name with
  | none =>
    rw [hfind] at h
    cases h
    exact ⟨none, whenGiven_of_none hfind, rfl⟩
  | some v => exact whenGiven_of_some hfind ▸ (hfind ▸ h).nullable_eq

/-- A kind is decoded. -/
theorem choice_name (k : Kind) : choice false Kind.byName (.str k.name) = .ok k := by
  cases k <;> rfl

/-- **The inner object of an answer is decoded.** -/
theorem SaysBody.bodyOfJson_eq (h : SaysBody v body) (hv : v.InOrder) :
    bodyOfJson v = .ok body := by
  cases h with
  | @intro fields body known kind content visible hints =>
    cases hv with
    | obj sorted inner =>
      obtain ⟨outer, houter, hjoin⟩ := hints.whenGiven_eq inner
      have hread : bodyLayout.read (.obj fields) = .ok fields := by
        refine Json.Decode.Record.read_obj_of_sorted sorted known fun rule hrule v hv => ?_
        simp only [bodyLayout, List.mem_cons, List.not_mem_nil, or_false] at hrule
        rcases hrule with rfl | rfl | rfl
        · cases kind.symm.trans hv
          exact Json.Decode.Rule.accept_needs (choice_name body.kind)
        · cases content.symm.trans hv
          rfl
        · exact Json.Decode.Rule.accept_allows ((whenGiven_of_some hv).symm.trans houter)
      simp only [bodyOfJson, hread, Json.Decode.ok_bind, needed_of_some kind,
        needed_of_some content, choice_name, houter, hjoin]
      rfl

/-- **A value that says an answer is decoded to it.** -/
theorem Says.ofJson_eq (h : Says v a) (hv : v.InOrder) : ofJson v = .ok a := by
  cases h with
  | @intro fields inner a known answer body flag attachments =>
    cases hv with
    | obj sorted hinner =>
      have hbody : bodyOfJson inner = .ok a.body :=
        body.bodyOfJson_eq (hinner _ (Fields.mem_of_find?_eq_some answer))
      obtain ⟨outer, houter, hitems⟩ := attachments.whenGiven_eq
      have hread : layout.read (.obj fields) = .ok fields := by
        refine Json.Decode.Record.read_obj_of_sorted sorted known fun rule hrule v hv => ?_
        simp only [layout, List.mem_cons, List.not_mem_nil, or_false] at hrule
        rcases hrule with rfl | rfl | rfl
        · cases answer.symm.trans hv
          exact Json.Decode.Rule.accept_needs hbody
        · cases flag.symm.trans hv
          rfl
        · exact Json.Decode.Rule.accept_allows ((whenGiven_of_some hv).symm.trans houter)
      simp only [ofJson, hread, Json.Decode.ok_bind, needed_of_some answer, needed_of_some flag,
        hbody, houter, hitems]
      rfl

/-! ## What says an answer -/

/-- An answer can be seen if its content is not blank. -/
theorem Says.visible (h : Says v a) : Text.isBlankText a.content = false := by
  cases h with
  | intro known answer body flag attachments =>
    cases body with
    | intro known kind content visible hints => exact visible

/-- **The normal form of an answer says it.** -/
theorem says_toJson (h : Text.isBlankText a.content = false) : Says a.toJson a := by
  have hmeta : SaysHints (some a.metaJson) a.disableLinkPreview := by
    unfold metaJson
    cases a.disableLinkPreview with
    | none => exact .given (fun _ hname => by cases hname) .absent
    | some b => exact .given (fun _ hname => Fields.mem_of_mem_names_ofList hname) (.given b)
  have hbody : SaysBody (.ofFields
      [("kind", .str a.kind.name), ("content", .str a.content), ("meta", a.metaJson)]) a.body := by
    refine .intro (fun _ hname => Fields.mem_of_mem_names_ofList hname) ?_ ?_ h ?_
    · simp [Fields.find?_ofList, body]
    · simp [Fields.find?_ofList, body]
    · simpa [Fields.find?_ofList, body] using hmeta
  refine .intro (fun _ hname => Fields.mem_of_mem_names_ofList hname) ?_ hbody ?_ ?_
  · simp [Fields.find?_ofList]
  · simp [Fields.find?_ofList]
  · simpa [Fields.find?_ofList] using SaysAttachments.given a.attachments

/-- **What is taken is told in a form that can be taken.** -/
theorem Says.toJson (h : Says v a) : Says a.toJson a :=
  says_toJson h.visible

/-- **A text in the form of an answer says that text**, if there is any. -/
theorem says_plain {s : String} (h : Text.isBlankText s = false) :
    Says (plain s) { kind := .text, content := s, shouldAnswer := true } := by
  have hbody : SaysBody (.ofFields [("kind", .str "text"), ("content", .str s)])
      (body { kind := .text, content := s, shouldAnswer := true }) := by
    refine .intro (fun _ hname => List.mem_append_left ["meta"]
      (Fields.mem_of_mem_names_ofList hname)) ?_ ?_ h ?_
    · simp [Fields.find?_ofList, body, Kind.name]
    · simp [Fields.find?_ofList, body]
    · simpa [Fields.find?_ofList, body] using SaysHints.absent
  refine .intro (fun _ hname => List.mem_append_left ["attachments"]
    (Fields.mem_of_mem_names_ofList hname)) ?_ hbody ?_ ?_
  · simp [Fields.find?_ofList]
  · simp [Fields.find?_ofList]
  · simpa [Fields.find?_ofList] using SaysAttachments.absent

/-! ## Candidates -/

/-- **A value is taken exactly if it says an answer**, and for that answer. -/
theorem accept_eq_ok_iff (hv : v.InOrder) : accept v = .ok a ↔ Says v a := by
  constructor
  · intro h
    unfold accept at h
    split at h
    · rename_i hnil
      obtain ⟨a', ha'⟩ := violations_eq_nil_iff.mp hnil
      rw [ha'.ofJson_eq hv] at h
      cases h
      exact ha'
    · cases h
  · intro h
    unfold accept
    rw [violations_eq_nil_iff.mpr ⟨a, h⟩]
    simp only [h.ofJson_eq hv]

/-- **A candidate gives an answer**: it is JSON, perhaps in a fence, and says it. -/
def Gives (candidate : String) (a : Answer) : Prop :=
  ∃ v, Fence.readFenced (Text.trim candidate) = .ok v ∧ Says v a

variable {candidate : String}

/-- **A candidate is taken exactly if it gives an answer**, and for that answer. -/
theorem check_eq_ok_iff : check candidate = .ok a ↔ Gives candidate a := by
  unfold check
  constructor
  · intro h
    split at h
    · rename_i v hread
      exact ⟨v, hread, (accept_eq_ok_iff (Fence.inOrder_of_readFenced hread)).mp h⟩
    · cases h
  · rintro ⟨v, hread, h⟩
    rw [hread]
    exact (accept_eq_ok_iff (Fence.inOrder_of_readFenced hread)).mpr h

namespace Validator

variable {w : Validator} {rejection : Rejection} {n : Nat} {history : List Rejected}

/-- **A validator takes a candidate only for the answer that it gives.** -/
theorem gives_of_valid (h : (w.receive candidate).2 = .valid a n) : Gives candidate a := by
  unfold receive at h
  split at h
  · rename_i a' hcheck
    cases h
    exact check_eq_ok_iff.mp hcheck
  · dsimp only at h
    split at h <;> cases h

/-- **A candidate that is sent back gives none.** -/
theorem not_gives_of_retry (h : (w.receive candidate).2 = .retry rejection n) :
    ¬ Gives candidate a := by
  intro hgives
  rw [← check_eq_ok_iff] at hgives
  simp [receive, hgives] at h

/-- **Nor does one that a validator gives up on**, and there are no attempts left. -/
theorem not_gives_of_fail (h : (w.receive candidate).2 = .fail rejection n history) :
    ¬ Gives candidate a ∧ w.maxAttempts ≤ w.attempts + 1 := by
  constructor
  · intro hgives
    rw [← check_eq_ok_iff] at hgives
    simp [receive, hgives] at h
  · unfold receive at h
    split at h
    · cases h
    · dsimp only at h
      split at h
      · cases h
      · rename_i hlast
        exact Nat.le_of_not_lt hlast

end Validator

end Colloquy.Answer
