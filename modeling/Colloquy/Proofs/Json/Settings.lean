import Colloquy.Json.Kind
import Colloquy.Proofs.Json.Order

/-!
# Records of settings

A record is decoded setting by setting, from the fields of an object or from the
items of a list. A value that has a place in the record (`Setting.Place`) is set
by one setting and kept by all others, so that in the end it is what was given
for it – under the name of the setting, or where the setting stands in the list
– or what it was before, if nothing was given (`Setting.Place.comes_record`).
-/

namespace Colloquy.Json

/-- **What becomes of a value** that something may be given for: what is decoded
from that, or else what it was. -/
inductive Comes {α : Type} (k : Kind α) (old : α) : Option Json → α → Prop
  /-- Something is given. -/
  | given {v : Json} {a : α} (decoded : k.ofJson v = .ok a) : Comes k old (some v) a
  /-- Nothing is given. -/
  | kept : Comes k old none old

namespace Setting

open Reader (exists_of_bind_eq_ok)

variable {σ α β : Type} {k : Kind α} {get : σ → α} {set : α → σ → σ} {name : String}
variable {settings : List (Setting σ)} {setting : Setting σ} {n : Nat} {s s' : σ}

/-- **A setting keeps a value** of the record, whatever it decodes. -/
def Keeps (get : σ → α) (setting : Setting σ) : Prop :=
  ∀ v s s', setting.ofJson v s = .ok s' → get s' = get s

/-- **A setting sets a value** of the record to what it decodes. -/
def Sets (k : Kind α) (get : σ → α) (setting : Setting σ) : Prop :=
  ∀ v s s', setting.ofJson v s = .ok s' → k.ofJson v = .ok (get s')

theorem exists_of_ofJson {v : Json} (h : (k.setting name get set).ofJson v s = .ok s') :
    ∃ a, k.ofJson v = .ok a ∧ set a s = s' := by
  change (k.ofJson v).map _ = _ at h
  cases hdecoded : k.ofJson v with
  | error e =>
    rw [hdecoded] at h
    cases h
  | ok a =>
    rw [hdecoded] at h
    exact ⟨a, rfl, Except.ok.inj h⟩

theorem sets_setting (h : ∀ a s, get (set a s) = a) : (k.setting name get set).Sets k get := by
  intro v s s' hread
  obtain ⟨a, hdecoded, rfl⟩ := exists_of_ofJson hread
  rw [h]
  exact hdecoded

theorem keeps_setting {other : σ → β} (h : ∀ a s, other (set a s) = other s) :
    (k.setting name get set).Keeps other := by
  intro v s s' hread
  obtain ⟨a, -, rfl⟩ := exists_of_ofJson hread
  exact h a s

/-- **A value has a place among the settings of a record**: the setting there sets
it, and the others, which have other names, keep it. -/
structure Place (settings : List (Setting σ)) (n : Nat) (name : String) (k : Kind α)
    (get : σ → α) : Prop where
  /-- The setting at the place has the name and sets the value. -/
  sets : ∃ setting, settings[n]? = some setting ∧ setting.name = name ∧ setting.Sets k get
  /-- The others do not. -/
  keeps : ∀ other ∈ settings.eraseIdx n, other.name ≠ name ∧ other.Keeps get

namespace Place

theorem mem_eraseIdx_or (setting : Setting σ) (hmem : setting ∈ settings) (n : Nat) :
    setting ∈ settings.eraseIdx n ∨ settings[n]? = some setting := by
  obtain ⟨m, hm⟩ := List.getElem?_of_mem hmem
  by_cases hmn : m = n
  · exact .inr (hmn ▸ hm)
  · exact .inl (List.mem_eraseIdx_iff_getElem?.mpr ⟨m, hmn, hm⟩)

/-- The setting that is found by the name is the one at the place. -/
theorem sets_of_named (h : Place settings n name k get)
    (hnamed : named? settings name = some setting) : setting.Sets k get := by
  have hname : setting.name = name := by simpa using List.find?_some hnamed
  obtain ⟨setting', hplace, -, hsets⟩ := h.sets
  rcases mem_eraseIdx_or setting (List.mem_of_find?_eq_some hnamed) n with hother | hhere
  · exact absurd hname (h.keeps setting hother).1
  · rw [hplace, Option.some_inj] at hhere
    exact hhere ▸ hsets

/-- One that is found by another name keeps the value. -/
theorem keeps_of_named (h : Place settings n name k get) {other : String} (hother : other ≠ name)
    (hnamed : named? settings other = some setting) : setting.Keeps get := by
  have hname : setting.name = other := by simpa using List.find?_some hnamed
  obtain ⟨setting', hplace, hname', -⟩ := h.sets
  rcases mem_eraseIdx_or setting (List.mem_of_find?_eq_some hnamed) n with hrest | hhere
  · exact (h.keeps setting hrest).2
  · rw [hplace, Option.some_inj] at hhere
    exact absurd (hname.symm.trans (hhere ▸ hname')) hother

end Place

/-! ## Objects -/

/-- **A field is decoded by the setting of its name**, or passed over. -/
theorem exists_of_ofFields_cons {name : String} {v : Json} {fields : Fields}
    (h : ofFields settings ((name, v) :: fields) s = .ok s') :
    ∃ between, ofFields settings fields between = .ok s'
      ∧ (named? settings name = none ∧ between = s
        ∨ ∃ setting, named? settings name = some setting ∧ setting.ofJson v s = .ok between) := by
  rw [ofFields] at h
  cases hnamed : named? settings name with
  | none =>
    rw [hnamed] at h
    exact ⟨s, h, .inl ⟨rfl, rfl⟩⟩
  | some setting =>
    rw [hnamed] at h
    obtain ⟨between, hread, hrest⟩ := exists_of_bind_eq_ok h
    exact ⟨between, hrest, .inr ⟨setting, rfl, hread⟩⟩

namespace Place

variable {fields : Fields}

/-- A field of another name keeps the value. -/
theorem keeps_of_cons (h : Place settings n name k get) {other : String} {v : Json}
    {between : σ} (hother : other ≠ name)
    (hstep : named? settings other = none ∧ between = s
      ∨ ∃ setting, named? settings other = some setting ∧ setting.ofJson v s = .ok between) :
    get between = get s := by
  rcases hstep with ⟨-, rfl⟩ | ⟨setting, hnamed, hread⟩
  · rfl
  · exact h.keeps_of_named hother hnamed v s between hread

/-- Without a field of the name the value is kept. -/
theorem kept_of_ofFields (h : Place settings n name k get) (habsent : fields.find? name = none)
    (hread : ofFields settings fields s = .ok s') : get s' = get s := by
  induction fields generalizing s with
  | nil =>
    cases hread
    rfl
  | cons e fields ih =>
    obtain ⟨other, v⟩ := e
    rw [Fields.find?] at habsent
    split_ifs at habsent with hother
    obtain ⟨between, hrest, hstep⟩ := exists_of_ofFields_cons hread
    exact (ih habsent hrest).trans (h.keeps_of_cons hother hstep)

/-- **What becomes of the value** when a record is decoded from an object. -/
theorem comes_ofFields (h : Place settings n name k get) (hsorted : fields.Sorted)
    (hread : ofFields settings fields s = .ok s') :
    Comes k (get s) (fields.find? name) (get s') := by
  induction fields generalizing s with
  | nil =>
    cases hread
    exact .kept
  | cons e fields ih =>
    obtain ⟨other, v⟩ := e
    obtain ⟨hfirst, hfields⟩ := List.pairwise_cons.mp hsorted
    obtain ⟨between, hrest, hstep⟩ := exists_of_ofFields_cons hread
    rw [Fields.find?]
    split_ifs with hother
    · subst hother
      -- no other field has the name
      have habsent : Fields.find? fields other = none := by
        rw [Option.eq_none_iff_forall_ne_some]
        intro v' hfound
        exact lt_irrefl other (hfirst _ (Fields.mem_of_find?_eq_some hfound))
      rw [h.kept_of_ofFields habsent hrest]
      rcases hstep with ⟨hnone, -⟩ | ⟨setting, hnamed, hdecoded⟩
      · obtain ⟨setting, hplace, hname, -⟩ := h.sets
        have hfound := List.find?_eq_none.mp hnone setting (List.mem_of_getElem? hplace)
        exact absurd (by simpa using hname) hfound
      · exact .given (h.sets_of_named hnamed v s between hdecoded)
    · rw [← h.keeps_of_cons hother hstep]
      exact ih hfields hrest

end Place

/-! ## Lists -/

/-- **An item is decoded by the setting at its place.** -/
theorem exists_of_ofItems_cons {all : Nat} {v : Json} {items : List Json}
    (h : ofItems all (setting :: settings) (v :: items) s = .ok s') :
    ∃ between, setting.ofJson v s = .ok between ∧ ofItems all settings items between = .ok s' := by
  rw [ofItems] at h
  exact exists_of_bind_eq_ok h

theorem kept_of_ofItems {all : Nat} {items : List Json}
    (h : ∀ other ∈ settings, other.Keeps get) (hread : ofItems all settings items s = .ok s') :
    get s' = get s := by
  induction items generalizing settings s with
  | nil =>
    cases settings <;> cases hread <;> rfl
  | cons v items ih =>
    cases settings with
    | nil => cases hread
    | cons other settings =>
      obtain ⟨hother, hsettings⟩ := List.forall_mem_cons.mp h
      obtain ⟨between, hstep, hrest⟩ := exists_of_ofItems_cons hread
      exact (ih hsettings hrest).trans (hother v s between hstep)

/-- **What becomes of the value** when a record is decoded from a list. -/
theorem Place.comes_ofItems (h : Place settings n name k get) {all : Nat} {items : List Json}
    (hread : ofItems all settings items s = .ok s') : Comes k (get s) items[n]? (get s') := by
  induction items generalizing settings n s with
  | nil =>
    cases settings <;> cases hread <;> exact .kept
  | cons v items ih =>
    cases settings with
    | nil => cases hread
    | cons other settings =>
      obtain ⟨between, hstep, hrest⟩ := exists_of_ofItems_cons hread
      obtain ⟨setting, hplace, hname, hsets⟩ := h.sets
      cases n with
      | zero =>
        obtain rfl := Option.some.inj hplace
        rw [kept_of_ofItems (fun rest hmem => (h.keeps rest hmem).2) hrest]
        exact .given (hsets v s between hstep)
      | succ n =>
        obtain ⟨hother, hkeeps⟩ := List.forall_mem_cons.mp h.keeps
        rw [← hother.2 v s between hstep]
        exact ih ⟨⟨setting, hplace, hname, hsets⟩, hkeeps⟩ hrest

/-! ## Records -/

/-- **What is given for a setting**: the field of its name, or the item at its
place. -/
def given? (v : Json) (n : Nat) (name : String) : Option Json :=
  match v with
  | .arr items => items[n]?
  | _ => v.field? name

/-- **What becomes of a value of a record**: it is what is given for it, and its
default if nothing is. -/
theorem Place.comes_record (h : Place settings n name k get) {title : String} {v : Json}
    (hv : v.InOrder) (hread : (record title s settings).ofJson v = .ok s') :
    Comes k (get s) (given? v n name) (get s') := by
  cases hv with
  | obj hsorted _ => exact h.comes_ofFields hsorted hread
  | arr _ => exact h.comes_ofItems hread
  | _ => cases hread

end Setting

end Colloquy.Json
