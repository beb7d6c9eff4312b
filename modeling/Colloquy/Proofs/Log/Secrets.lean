import Colloquy.Log.Sanitize
import Colloquy.Proofs.Json.Order

/-!
# A log does not tell credentials

What a log shows of arguments does not depend on what stands under the names of
credentials, however deep inside the arguments they are (`arguments_eq_of_agreeFields`).
The arguments compared are **the same apart from credentials**: the same scalars, lists of
one length and objects with the same names, where only the values under sensitive names
may be any two values.

The relation goes through two values side by side, entry by entry. Where names come in
their order and once each, that is the same as looking fields up by their names
(`agreeFields_iff_of_sorted`), and no more is asked of a field than that its two values
agree, unless its name is a sensitive one.

The other half is about a single value: wherever a log shows a sensitive name, the mask
stands under it (`masked_arguments`).
-/

namespace Colloquy.Log

open Json (Fields)

mutual

/-- **Two values are the same apart from credentials.** -/
inductive Agree : Json → Json → Prop
  /-- The null value. -/
  | null : Agree .null .null
  /-- A truth value. -/
  | bool (b : Bool) : Agree (.bool b) (.bool b)
  /-- A number. -/
  | num (n : Json.Number) : Agree (.num n) (.num n)
  /-- A string. -/
  | str (s : String) : Agree (.str s) (.str s)
  /-- Lists, item by item. -/
  | arr {vs ws : List Json} (items : AgreeItems vs ws) : Agree (.arr vs) (.arr ws)
  /-- Objects, field by field. -/
  | obj {es fs : Fields} (fields : AgreeFields es fs) : Agree (.obj es) (.obj fs)

/-- Lists of one length whose items are the same apart from credentials. -/
inductive AgreeItems : List Json → List Json → Prop
  /-- No items. -/
  | nil : AgreeItems [] []
  /-- One item more. -/
  | cons {v w : Json} {vs ws : List Json} (first : Agree v w) (rest : AgreeItems vs ws) :
      AgreeItems (v :: vs) (w :: ws)

/-- **Fields with the same names that are the same apart from credentials.** -/
inductive AgreeFields : Fields → Fields → Prop
  /-- No fields. -/
  | nil : AgreeFields [] []
  /-- A credential, whatever it is on either side. -/
  | secret {name : String} (v w : Json) {es fs : Fields} (sensitive : isSensitive name = true)
      (rest : AgreeFields es fs) : AgreeFields ((name, v) :: es) ((name, w) :: fs)
  /-- Any other field, under whatever name. -/
  | shown {name : String} {v w : Json} {es fs : Fields} (value : Agree v w)
      (rest : AgreeFields es fs) : AgreeFields ((name, v) :: es) ((name, w) :: fs)

end

variable {v w : Json} {vs ws : List Json} {es fs : Fields}

/-! ## What agreeing means -/

theorem AgreeItems.length_eq (h : AgreeItems vs ws) : vs.length = ws.length := by
  induction vs generalizing ws with
  | nil => cases h; rfl
  | cons v vs ih =>
    cases h with
    | cons _ rest => rw [List.length_cons, List.length_cons, ih rest]

/-- Fields that agree have the same names. -/
theorem AgreeFields.names_eq (h : AgreeFields es fs) : Fields.names es = Fields.names fs := by
  induction es generalizing fs with
  | nil => cases h; rfl
  | cons e es ih =>
    cases h with
    | secret _ _ _ rest | shown _ rest => exact congrArg (_ :: ·) (ih rest)

theorem AgreeFields.length_eq (h : AgreeFields es fs) : es.length = fs.length := by
  simpa [Fields.names] using congrArg List.length h.names_eq

mutual

theorem Agree.refl : ∀ v : Json, Agree v v
  | .null => .null
  | .bool b => .bool b
  | .num n => .num n
  | .str s => .str s
  | .arr items => .arr (AgreeItems.refl items)
  | .obj fields => .obj (AgreeFields.refl fields)

theorem AgreeItems.refl : ∀ vs : List Json, AgreeItems vs vs
  | [] => .nil
  | v :: vs => .cons (Agree.refl v) (AgreeItems.refl vs)

theorem AgreeFields.refl : ∀ es : List (String × Json), AgreeFields es es
  | [] => .nil
  | (_, v) :: es => .shown (Agree.refl v) (AgreeFields.refl es)

end

/-- The fields of a name that is not a sensitive one agree. -/
theorem AgreeFields.agree_of_find? {name : String} (h : AgreeFields es fs)
    (hplain : isSensitive name = false) (hv : es.find? name = some v)
    (hw : fs.find? name = some w) : Agree v w := by
  induction es generalizing fs with
  | nil => cases hv
  | cons e es ih =>
    cases h with
    | @secret n _ _ _ _ sensitive rest =>
      have hne : n ≠ name := fun heq => by simp [heq, hplain] at sensitive
      rw [Fields.find?, if_neg hne] at hv hw
      exact ih rest hv hw
    | shown value rest =>
      rw [Fields.find?] at hv hw
      split_ifs at hv hw
      · cases hv
        cases hw
        exact value
      · exact ih rest hv hw

/-- **Fields in order agree exactly if they have the same names and the fields of every
name that is not a sensitive one agree.** -/
theorem agreeFields_iff_of_sorted (h : es.Sorted) :
    AgreeFields es fs ↔
      es.names = fs.names ∧
      ∀ name v w, isSensitive name = false → es.find? name = some v → fs.find? name = some w →
        Agree v w := by
  constructor
  · intro hagree
    exact ⟨hagree.names_eq, fun _ _ _ hplain hv hw => hagree.agree_of_find? hplain hv hw⟩
  · rintro ⟨hnames, hagree⟩
    induction es generalizing fs with
    | nil =>
      rw [List.map_eq_nil_iff.mp hnames.symm]
      exact .nil
    | cons e es ih =>
      obtain ⟨hfirst, hsorted⟩ := List.pairwise_cons.mp h
      obtain ⟨⟨n, w⟩, fs, rfl⟩ : ∃ f fs', fs = f :: fs' := by
        cases fs with
        | nil => simp [Fields.names] at hnames
        | cons f fs => exact ⟨f, fs, rfl⟩
      obtain ⟨rfl, hrest⟩ := List.cons.inj hnames
      -- behind the first name there is only what comes later in the order
      have hbehind : AgreeFields es fs := ih hsorted hrest fun name v w' hplain hv hw => by
        have hne : e.1 ≠ name := ne_of_lt (hfirst _ (Fields.mem_of_find?_eq_some hv))
        refine hagree name v w' hplain ?_ ?_
        · rw [Fields.find?, if_neg hne, hv]
        · rw [Fields.find?, if_neg hne, hw]
      cases hsensitive : isSensitive e.1 with
      | true => exact .secret e.2 w hsensitive hbehind
      | false =>
        refine .shown (hagree e.1 e.2 w hsensitive ?_ ?_) hbehind <;>
          rw [Fields.find?, if_pos rfl]

/-! ## What is shown -/

mutual

/-- **Values that agree are shown alike.** -/
theorem Agree.sanitize_eq : ∀ {v w : Json}, Agree v w → sanitize v = sanitize w
  | _, _, .null => rfl
  | _, _, .bool _ => rfl
  | _, _, .num _ => rfl
  | _, _, .str _ => rfl
  | _, _, .arr items => by
    rw [sanitize, sanitize, items.sanitizeItems_eq, items.length_eq]
  | _, _, .obj fields => by
    rw [sanitize, sanitize, fields.sanitizeFields_eq, fields.length_eq]

theorem AgreeItems.sanitizeItems_eq :
    ∀ {vs ws : List Json}, AgreeItems vs ws → sanitizeItems vs = sanitizeItems ws
  | _, _, .nil => rfl
  | _, _, .cons first rest => by
    rw [sanitizeItems, sanitizeItems, first.sanitize_eq, rest.sanitizeItems_eq]

theorem AgreeFields.sanitizeFields_eq :
    ∀ {es fs : Fields}, AgreeFields es fs → sanitizeFields es = sanitizeFields fs
  | _, _, .nil => rfl
  | _, _, .secret _ _ sensitive rest => by
    rw [sanitizeFields, sanitizeFields, if_pos sensitive, if_pos sensitive,
      rest.sanitizeFields_eq]
  | _, _, .shown value rest => by
    rw [sanitizeFields, sanitizeFields, value.sanitize_eq, rest.sanitizeFields_eq]

end

/-- **A log tells nothing of credentials**: arguments that are the same apart from
credentials are shown alike. -/
theorem arguments_eq_of_agreeFields (h : AgreeFields es fs) : arguments es = arguments fs :=
  congrArg Json.obj h.sanitizeFields_eq

/-- The arguments of a call that logs in and gives its key with the first of more jobs than
are shown. -/
def loggingIn (token key : Json) : Fields :=
  [("jobs", .arr (.obj [("Api-Key", key), ("url", .str "/")] :: List.replicate 20 .null)),
    ("token", token)]

theorem arguments_loggingIn :
    AgreeFields (loggingIn .null (.str "k-1")) (loggingIn (.arr [.null]) (.obj [])) ∧
      arguments (loggingIn .null (.str "k-1")) = arguments (loggingIn (.arr [.null]) (.obj [])) :=
  have h : AgreeFields (loggingIn .null (.str "k-1")) (loggingIn (.arr [.null]) (.obj [])) :=
    .shown (.arr (.cons (.obj (.secret _ _ (by decide) (AgreeFields.refl _))) (AgreeItems.refl _)))
      (.secret _ _ (by decide) .nil)
  ⟨h, arguments_eq_of_agreeFields h⟩

/-! ## The mask -/

/-- **Credentials are masked** in a value: the mask stands under every sensitive name. -/
inductive Masked : Json → Prop
  /-- The null value. -/
  | null : Masked .null
  /-- A truth value. -/
  | bool (b : Bool) : Masked (.bool b)
  /-- A number. -/
  | num (n : Json.Number) : Masked (.num n)
  /-- A string. -/
  | str (s : String) : Masked (.str s)
  /-- Credentials are masked in all items. -/
  | arr {items : List Json} (inner : ∀ v ∈ items, Masked v) : Masked (.arr items)
  /-- Credentials are masked among the fields and inside of them. -/
  | obj {fields : Fields} (masked : ∀ e ∈ fields, isSensitive e.1 = true → e.2 = mask)
      (inner : ∀ e ∈ fields, Masked e.2) : Masked (.obj fields)

/-- The note on missing fields stands under a name that is not a sensitive one. -/
theorem Masked.insert_note {fields : Fields} {note : Json} (h : Masked (.obj fields))
    (hnote : Masked note) : Masked (.obj (fields.insert "..." note)) := by
  cases h with
  | obj hmask hinner =>
    refine .obj (fun e he hsensitive => ?_) (fun e he => ?_)
    · rcases Fields.mem_of_mem_insert he with rfl | he
      · have hplain : isSensitive "..." = false := by decide
        exact absurd hsensitive (by simp [hplain])
      · exact hmask e he hsensitive
    · rcases Fields.mem_of_mem_insert he with rfl | he
      · exact hnote
      · exact hinner e he

/-- One field more. -/
theorem Masked.cons {name : String} {fields : Fields} (h : Masked (.obj fields))
    (hmask : isSensitive name = true → v = mask) (hv : Masked v) :
    Masked (.obj ((name, v) :: fields)) := by
  cases h with
  | obj hmasked hinner =>
    exact .obj (List.forall_mem_cons.mpr ⟨hmask, hmasked⟩) (List.forall_mem_cons.mpr ⟨hv, hinner⟩)

/-- The first fields of an object. -/
theorem Masked.take {fields : Fields} (h : Masked (.obj fields)) (n : Nat) :
    Masked (.obj (fields.take n)) := by
  cases h with
  | obj hmask hinner =>
    exact .obj (fun e he => hmask e (List.mem_of_mem_take he))
      (fun e he => hinner e (List.mem_of_mem_take he))

mutual

/-- **In what a log shows of a value, credentials are masked.** -/
theorem masked_sanitize : ∀ v : Json, Masked (sanitize v)
  | .null => .null
  | .bool b => .bool b
  | .num n => .num n
  | .str s => .str _
  | .arr items => by
    refine .arr fun v hv => ?_
    rcases List.mem_append.mp hv with hv | hv
    · exact masked_sanitizeItems items v (List.mem_of_mem_take hv)
    · split_ifs at hv
      · rw [List.mem_singleton.mp hv]
        exact .str _
      · cases hv
  | .obj fields => by
    have hshown := (masked_arguments fields).take mostEntries
    rw [sanitize]
    split_ifs
    · exact hshown.insert_note (.str _)
    · exact hshown

theorem masked_sanitizeItems : ∀ vs : List Json, ∀ v ∈ sanitizeItems vs, Masked v
  | [], v, hv => by cases hv
  | w :: ws, v, hv => by
    rcases List.mem_cons.mp hv with rfl | hv
    · exact masked_sanitize w
    · exact masked_sanitizeItems ws v hv

/-- **In the arguments a log shows, credentials are masked**, at any depth. -/
theorem masked_arguments : ∀ fields : List (String × Json), Masked (arguments fields)
  | [] => .obj (fun e he => by cases he) (fun e he => by cases he)
  | (name, v) :: rest => by
    refine (masked_arguments rest).cons (fun hsensitive => if_pos hsensitive) ?_
    split_ifs
    · exact .str _
    · exact masked_sanitize v

end

end Colloquy.Log
