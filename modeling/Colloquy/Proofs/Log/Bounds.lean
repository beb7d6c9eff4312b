import Colloquy.Log.Sanitize
import Colloquy.Proofs.Json.Order
import Mathlib.Data.Nat.Digits.Defs

/-!
# How much a log shows

A log shows arguments place by place: below the root, what it shows at a place is the
sanitized value of that place, if it is not the mask or a note on entries that were left out
(`at?_arguments`). So it is enough to look at one value at a time, whatever is in it
(`shown_sanitize`). A string is cut behind three hundred characters. A list or an object of
at most twenty entries keeps all of them, and one with more shows twenty and a note that tells
how many there are besides. The note has its own place in a list. In an object it is a field,
which replaces one of its name if there is one among those that are shown.

The root has its own rule, and nothing is cut there. It is within the bounds of other objects
only where there is nothing to cut, but for one case: a field of its own may look like the note
(`shown_arguments_iff`).
-/

namespace Colloquy

namespace Json

/-- A step from a value to one of its entries. -/
inductive Step where
  /-- To an item of a list. -/
  | item (i : Nat)
  /-- To a field of an object. -/
  | field (name : String)
deriving DecidableEq, Repr

/-- The entry that a step leads to. -/
def entryAt? : Json → Step → Option Json
  | .arr items, .item i => items[i]?
  | .obj fields, .field name => Fields.find? fields name
  | _, _ => none

/-- **The value at a place**, which is given by the steps to it. -/
def at? (v : Json) : List Step → Option Json
  | [] => some v
  | step :: path => (v.entryAt? step).bind fun w => w.at? path

variable {v w : Json} {step : Step} {path : List Step} {fields : Fields} {name : String}

theorem at?_cons_eq_some_iff :
    v.at? (step :: path) = some w ↔ ∃ u, v.entryAt? step = some u ∧ u.at? path = some w :=
  Option.bind_eq_some_iff

/-- There is nothing inside of a string. -/
theorem at?_str_eq_some {s : String} (h : (Json.str s).at? path = some w) :
    path = [] ∧ w = .str s := by
  cases path with
  | nil => exact ⟨rfl, (Option.some.inj h).symm⟩
  | cons step path => cases step <;> cases h

/-- A field that is found among the first ones is found. -/
theorem Fields.find?_of_find?_take {n : Nat} (h : Fields.find? (fields.take n) name = some v) :
    fields.find? name = some v := by
  induction fields generalizing n with
  | nil => simp at h
  | cons e fields ih =>
    cases n with
    | zero => cases h
    | succ n =>
      rw [List.take_succ_cons, Fields.find?] at h
      rw [Fields.find?]
      split_ifs at h ⊢
      · exact h
      · exact ih h

theorem Fields.length_insert_le (fields : Fields) (name : String) (value : Json) :
    (fields.insert name value).length ≤ fields.length + 1 := by
  induction fields with
  | nil => exact le_rfl
  | cons e fields ih =>
    rw [Fields.insert]
    split_ifs <;> simp only [List.length_cons] <;> omega

end Json

namespace Text

variable {n : Nat} {s t : String}

theorem preview_of_length_le (h : s.toList.length ≤ n) : preview n s = s := by
  rw [preview, if_neg (by omega), firstChars, List.take_of_length_le h, String.ofList_toList]

/-- A text that was cut has three dots besides. -/
theorem length_firstChars_append (h : n < s.toList.length) :
    (firstChars n s ++ "...").toList.length = n + 3 := by
  have hdots : "...".toList.length = 3 := by decide
  rw [String.toList_append, List.length_append, firstChars, String.toList_ofList,
    List.length_take, Nat.min_eq_left h.le, hdots]

/-- A preview that is short enough is all of the text. -/
theorem preview_eq_iff (hshort : t.toList.length ≤ n) : preview n s = t ↔ s = t := by
  constructor
  · intro h
    rcases Nat.lt_or_ge n s.toList.length with hlong | hall
    · rw [preview, if_pos hlong] at h
      rw [← h, length_firstChars_append hlong] at hshort
      omega
    · rwa [preview_of_length_le hall] at h
  · rintro rfl
    exact preview_of_length_le hshort

end Text

namespace Log

open Json (Fields Step)

variable {v w : Json} {step : Step} {path : List Step} {fields : Fields} {name : String}

/-- **What stands at a place for something that is not shown there.** -/
inductive StandsIn : List Step → Json → Prop
  /-- The mask, for a credential. -/
  | mask (path : List Step) {name : String} (sensitive : isSensitive name = true) :
      StandsIn (path ++ [.field name]) mask
  /-- The note on more items, behind the last one that is shown. -/
  | items (path : List Step) (n : Nat) : StandsIn (path ++ [.item mostEntries]) (missingItems n)
  /-- The note on more fields. -/
  | fields (path : List Step) (n : Nat) : StandsIn (path ++ [.field "..."]) (missingFields n)

/-- **A value is shown within the bounds**, what is inside of it apart. -/
inductive Shown : Json → Json → Prop
  /-- The null value. -/
  | null : Shown .null .null
  /-- A truth value. -/
  | bool (b : Bool) : Shown (.bool b) (.bool b)
  /-- A number. -/
  | num (n : Json.Number) : Shown (.num n) (.num n)
  /-- A short string. -/
  | text {s : String} (short : s.toList.length ≤ longestString) : Shown (.str s) (.str s)
  /-- The first characters of a long string. -/
  | cutText {s : String} (long : longestString < s.toList.length) :
      Shown (.str s) (.str (Text.firstChars longestString s ++ "..."))
  /-- A list with few items. -/
  | list {vs ws : List Json} (few : vs.length ≤ mostEntries) (all : ws.length = vs.length) :
      Shown (.arr vs) (.arr ws)
  /-- A list with many items, and a note on those that are not shown. -/
  | cutList {vs ws : List Json} (many : mostEntries < vs.length)
      (first : ws.length = mostEntries) :
      Shown (.arr vs) (.arr (ws ++ [missingItems (vs.length - mostEntries)]))
  /-- An object with few fields. -/
  | object {es fs : Fields} (few : es.length ≤ mostEntries) (all : fs.names = es.names) :
      Shown (.obj es) (.obj fs)
  /-- An object with many fields, and a note on those that are not shown. -/
  | cutObject {es fs : Fields} (many : mostEntries < es.length)
      (first : fs.length ≤ mostEntries + 1)
      (note : fs.find? "..." = some (missingFields (es.length - mostEntries))) :
      Shown (.obj es) (.obj fs)

/-! ## The entries of a value -/

theorem sanitizeItems_eq_map (vs : List Json) : sanitizeItems vs = vs.map sanitize := by
  induction vs with
  | nil => rfl
  | cons v vs ih => rw [sanitizeItems, ih, List.map_cons]

theorem names_sanitizeFields (fields : List (String × Json)) :
    Fields.names (sanitizeFields fields) = Fields.names fields := by
  induction fields with
  | nil => rfl
  | cons e fields ih => exact congrArg (e.1 :: ·) ih

theorem length_sanitizeFields (fields : List (String × Json)) :
    (sanitizeFields fields).length = fields.length := by
  simpa [Fields.names] using congrArg List.length (names_sanitizeFields fields)

/-- A field is shown as the mask or sanitized. -/
theorem find?_sanitizeFields (fields : List (String × Json)) (name : String) :
    Fields.find? (sanitizeFields fields) name
      = (Fields.find? fields name).map fun v => if isSensitive name then mask else sanitize v := by
  induction fields with
  | nil => rfl
  | cons e fields ih =>
    rw [sanitizeFields, Fields.find?, Fields.find?]
    by_cases hname : e.1 = name
    · rw [if_pos hname, if_pos hname, hname, Option.map_some]
    · rw [if_neg hname, if_neg hname, ih]

/-- **What is shown as an entry of the arguments.** -/
theorem entryAt?_arguments (h : (arguments fields).entryAt? step = some w) :
    StandsIn [step] w ∨ ∃ v, (Json.obj fields).entryAt? step = some v ∧ w = sanitize v := by
  cases step with
  | item i => cases h
  | field name =>
    rw [arguments, Json.entryAt?, find?_sanitizeFields] at h
    obtain ⟨v, hv, hw⟩ := Option.map_eq_some_iff.mp h
    split_ifs at hw with hsensitive
    · exact .inl (hw ▸ StandsIn.mask [] hsensitive)
    · exact .inr ⟨v, hv, hw.symm⟩

/-- **What is shown as an entry of a value.** -/
theorem entryAt?_sanitize (h : (sanitize v).entryAt? step = some w) :
    StandsIn [step] w ∨ ∃ u, v.entryAt? step = some u ∧ w = sanitize u := by
  cases v with
  | null | bool _ | num _ | str _ => cases step <;> cases h
  | arr items =>
    cases step with
    | field name => cases h
    | item i =>
      rw [sanitize, Json.entryAt?, sanitizeItems_eq_map] at h
      rcases Nat.lt_or_ge i (List.take mostEntries (items.map sanitize)).length with hi | hi
      · -- an item that is shown
        rw [List.getElem?_append_left hi, List.getElem?_take_of_lt (by simp at hi; omega),
          List.getElem?_map] at h
        obtain ⟨u, hu, rfl⟩ := Option.map_eq_some_iff.mp h
        exact .inr ⟨u, hu, rfl⟩
      · -- the note, behind all of them
        rw [List.getElem?_append_right hi] at h
        split_ifs at h with hmany
        · obtain ⟨hzero, rfl⟩ : i - (List.take mostEntries (items.map sanitize)).length = 0
              ∧ missingItems (items.length - mostEntries) = w := by
            simpa [List.getElem?_singleton] using h
          have hplace : i = mostEntries := by
            simp only [List.length_take, List.length_map] at hzero hi
            omega
          exact .inl (hplace ▸ StandsIn.items [] _)
        · cases h
  | obj fields =>
    cases step with
    | item i => rw [sanitize] at h; split_ifs at h <;> cases h
    | field name =>
      have hshown (hfound : Fields.find? ((sanitizeFields fields).take mostEntries) name = some w) :
          StandsIn [.field name] w ∨ ∃ u, (Json.obj fields).entryAt? (.field name) = some u
            ∧ w = sanitize u :=
        entryAt?_arguments (Fields.find?_of_find?_take hfound)
      rw [sanitize] at h
      split_ifs at h with hmany
      · by_cases hname : name = "..."
        · subst hname
          rw [Json.entryAt?, Fields.find?_insert_self] at h
          exact .inl (Option.some.inj h ▸ StandsIn.fields [] _)
        · rw [Json.entryAt?, Fields.find?_insert_of_ne _ _ hname] at h
          exact hshown h
      · exact hshown h

/-! ## Places -/

theorem StandsIn.cons (h : StandsIn path w) (step : Step) : StandsIn (step :: path) w := by
  cases h with
  | mask path sensitive => exact .mask (step :: path) sensitive
  | items path n => exact .items (step :: path) n
  | fields path n => exact .fields (step :: path) n

/-- It is a string. -/
theorem StandsIn.exists_eq_str (h : StandsIn path w) : ∃ s, w = .str s := by
  cases h with
  | mask _ _ => exact ⟨_, rfl⟩
  | items _ n => exact ⟨_, rfl⟩
  | fields _ n => exact ⟨_, rfl⟩

/-- There is nothing inside of it. -/
theorem StandsIn.at?_eq_some {behind : List Step} {u : Json} (h : StandsIn path w)
    (hu : w.at? behind = some u) : behind = [] ∧ u = w := by
  obtain ⟨s, rfl⟩ := h.exists_eq_str
  exact Json.at?_str_eq_some hu

/-- **What is shown at a place inside of a value** stands for something else, or is the
sanitized value of that place. -/
theorem at?_sanitize (h : (sanitize v).at? path = some w) :
    StandsIn path w ∨ ∃ u, v.at? path = some u ∧ w = sanitize u := by
  induction path generalizing v with
  | nil => exact .inr ⟨v, rfl, (Option.some.inj h).symm⟩
  | cons step path ih =>
    obtain ⟨entry, hentry, hat⟩ := Json.at?_cons_eq_some_iff.mp h
    rcases entryAt?_sanitize hentry with hstands | ⟨u, hu, rfl⟩
    · obtain ⟨rfl, rfl⟩ := hstands.at?_eq_some hat
      exact .inl hstands
    · rcases ih hat with hstands | ⟨u', hu', rfl⟩
      · exact .inl (hstands.cons step)
      · exact .inr ⟨u', Json.at?_cons_eq_some_iff.mpr ⟨u, hu, hu'⟩, rfl⟩

/-- **What is shown at a place inside of the arguments.** -/
theorem at?_arguments (hpath : path ≠ []) (h : (arguments fields).at? path = some w) :
    StandsIn path w ∨ ∃ v, (Json.obj fields).at? path = some v ∧ w = sanitize v := by
  cases path with
  | nil => exact absurd rfl hpath
  | cons step path =>
    obtain ⟨entry, hentry, hat⟩ := Json.at?_cons_eq_some_iff.mp h
    rcases entryAt?_arguments hentry with hstands | ⟨v, hv, rfl⟩
    · obtain ⟨rfl, rfl⟩ := hstands.at?_eq_some hat
      exact .inl hstands
    · rcases at?_sanitize hat with hstands | ⟨u, hu, rfl⟩
      · exact .inl (hstands.cons step)
      · exact .inr ⟨u, Json.at?_cons_eq_some_iff.mpr ⟨v, hv, hu⟩, rfl⟩

/-! ## Bounds -/

/-- **Every value is shown within the bounds.** -/
theorem shown_sanitize (v : Json) : Shown v (sanitize v) := by
  cases v with
  | null => exact .null
  | bool b => exact .bool b
  | num n => exact .num n
  | str s =>
    rw [sanitize]
    rcases Nat.lt_or_ge longestString s.toList.length with hlong | hshort
    · rw [Text.preview, if_pos hlong]
      exact .cutText hlong
    · rw [Text.preview_of_length_le hshort]
      exact .text hshort
  | arr items =>
    have hcount : ((sanitizeItems items).take mostEntries).length
        = min mostEntries items.length := by
      rw [sanitizeItems_eq_map, List.length_take, List.length_map]
    rw [sanitize]
    split_ifs with hmany
    · exact .cutList hmany (by omega)
    · rw [List.append_nil]
      exact .list (by omega) (by omega)
  | obj fields =>
    rw [sanitize]
    split_ifs with hmany
    · refine .cutObject hmany ?_ (Fields.find?_insert_self _ _ _)
      refine (Fields.length_insert_le _ _ _).trans ?_
      rw [List.length_take]
      omega
    · refine .object (by omega) ?_
      rw [List.take_of_length_le (by rw [length_sanitizeFields]; omega), names_sanitizeFields]

/-- **A short string is shown as it is**, and nothing else is shown like it. -/
theorem sanitize_eq_str_iff {t : String} (hshort : t.toList.length ≤ longestString) :
    sanitize v = .str t ↔ v = .str t := by
  cases v with
  | str s => rw [sanitize, Json.str.injEq, Json.str.injEq, Text.preview_eq_iff hshort]
  | null | bool _ | num _ | arr _ => exact iff_of_false nofun nofun
  | obj fields =>
    refine iff_of_false (fun h => ?_) nofun
    rw [sanitize] at h
    split_ifs at h

/-- **A string that is shown is short.** -/
theorem Shown.length_le {s : String} (h : Shown v (.str s)) :
    s.toList.length ≤ longestString + 3 := by
  cases h with
  | text short => exact short.trans (Nat.le_add_right _ 3)
  | cutText long => exact (Text.length_firstChars_append long).le

/-- The number of the entries of a list or object has at most twenty digits. -/
theorem length_numbered_le {n : Nat} (hn : n < 2 ^ 64) (before behind : String) :
    (before ++ toString n ++ behind).toList.length
      ≤ before.toList.length + 20 + behind.toList.length := by
  have hdigits : (toString n).toList.length ≤ 20 := by
    rw [String.length_toList]
    exact Nat.repr_length n 20 (by decide) (hn.trans (by decide))
  simp only [String.toList_append, List.length_append]
  omega

/-- **What stands in is short**, but for a note on more entries than there can be. -/
theorem StandsIn.length_le {s : String} (h : StandsIn path (.str s)) :
    s.toList.length ≤ longestString + 3
      ∨ ∃ n, 2 ^ 64 ≤ n ∧ (.str s = missingItems n ∨ .str s = missingFields n) := by
  generalize hw : Json.str s = w at h
  cases h with
  | mask _ _ =>
    cases hw
    exact .inl (by decide)
  | items _ n =>
    rcases Nat.lt_or_ge n (2 ^ 64) with hn | hn
    · cases hw
      exact .inl ((length_numbered_le hn "...(+" " items)").trans (by decide))
    · exact .inr ⟨n, hn, .inl rfl⟩
  | fields _ n =>
    rcases Nat.lt_or_ge n (2 ^ 64) with hn | hn
    · cases hw
      exact .inl ((length_numbered_le hn "+" " keys").trans (by decide))
    · exact .inr ⟨n, hn, .inr rfl⟩

/-- **The root is shown within the bounds** exactly if there is nothing to cut, or if it has
one field too many and another looks like the note on it. -/
theorem shown_arguments_iff :
    Shown (.obj fields) (arguments fields) ↔
      fields.length ≤ mostEntries ∨
        fields.length = mostEntries + 1 ∧ fields.find? "..." = some (missingFields 1) := by
  have hnote : Fields.find? (sanitizeFields fields) "..." = some (missingFields 1)
      ↔ fields.find? "..." = some (missingFields 1) := by
    have hplain : isSensitive "..." = false := by decide
    have hshort : "+1 keys".toList.length ≤ longestString := by decide
    have hsame (v : Json) : sanitize v = missingFields 1 ↔ v = missingFields 1 :=
      sanitize_eq_str_iff hshort
    simp only [find?_sanitizeFields, hplain, Bool.false_eq_true, if_false, Option.map_eq_some_iff,
      hsame, exists_eq_right]
  constructor
  · intro h
    cases h with
    | object few _ => exact .inl few
    | cutObject many first note =>
      rw [length_sanitizeFields] at first
      have hone : fields.length - mostEntries = 1 := by omega
      rw [hone] at note
      exact .inr ⟨by omega, hnote.mp note⟩
  · rintro (few | ⟨hlength, hfound⟩)
    · exact .object few (names_sanitizeFields fields)
    · refine .cutObject (by omega) (by rw [length_sanitizeFields]; omega) ?_
      rw [hlength, Nat.add_sub_cancel_left]
      exact hnote.mpr hfound

/-- **How much a log shows of arguments.** A string has at most three hundred and three
characters, unless it is a note on more entries than there can be. Below the root, whatever is
no mask and no note is at the place of a value that it shows within the bounds: a list or
object with twenty entries or fewer has all of them, and one with more has twenty and a note
with the number of the others. The root is within these bounds if it has twenty fields or
fewer, and else only if there are twenty-one and one of them is what the note on the last
would be. -/
theorem bounded_arguments (fields : Fields) :
    (∀ path s, (arguments fields).at? path = some (.str s) →
      s.toList.length ≤ 303
        ∨ ∃ n, 2 ^ 64 ≤ n ∧ (.str s = missingItems n ∨ .str s = missingFields n))
    ∧ (∀ path w, path ≠ [] → (arguments fields).at? path = some w →
      StandsIn path w ∨ ∃ v, (Json.obj fields).at? path = some v ∧ Shown v w)
    ∧ (Shown (.obj fields) (arguments fields) ↔
      fields.length ≤ 20 ∨ fields.length = 21 ∧ fields.find? "..." = some (missingFields 1)) := by
  have hplaces (path : List Step) (w : Json) (hpath : path ≠ [])
      (h : (arguments fields).at? path = some w) :
      StandsIn path w ∨ ∃ v, (Json.obj fields).at? path = some v ∧ Shown v w := by
    rcases at?_arguments hpath h with hstands | ⟨v, hv, rfl⟩
    · exact .inl hstands
    · exact .inr ⟨v, hv, shown_sanitize v⟩
  refine ⟨fun path s h => ?_, hplaces, shown_arguments_iff⟩
  have hpath : path ≠ [] := by
    rintro rfl
    cases h
  rcases hplaces path _ hpath h with hstands | ⟨v, -, hshown⟩
  · exact hstands.length_le
  · exact .inl hshown.length_le

/-- Arguments with one field more than an object may show. -/
def wideArguments : Fields :=
  (List.range 21).map fun n => ("k" ++ toString (10 + n), .null)

/-- **The root is not cut**, and there is no note in it. -/
theorem not_bounded_arguments :
    ¬ ∀ fields : Fields, fields.Sorted → ∃ es : Fields, arguments fields = .obj es
      ∧ (es.length ≤ 20 ∨ es.length = 21 ∧ ∃ n, es.find? "..." = some (missingFields n)) := by
  intro h
  have hsorted : wideArguments.Sorted := Fields.sorted_iff_names.mpr (by decide +kernel)
  obtain ⟨es, hshown, hbound⟩ := h wideArguments hsorted
  obtain rfl := Json.obj.inj hshown
  rcases hbound with hfew | ⟨-, n, hnote⟩
  · rw [length_sanitizeFields] at hfew
    exact absurd hfew (by decide)
  · rw [find?_sanitizeFields] at hnote
    obtain ⟨v, hv, -⟩ := Option.map_eq_some_iff.mp hnote
    have hname : "..." ∈ wideArguments.names :=
      List.mem_map_of_mem (Fields.mem_of_find?_eq_some hv)
    exact absurd hname (by decide +kernel)

end Log

end Colloquy
