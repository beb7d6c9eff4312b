import Mathlib.Data.List.Basic
import Mathlib.Order.Bounds.Basic
import Mathlib.Order.MinMax

/-!
# Edits

An edit inserts, deletes or replaces a single character (`Text.Edit`). How many
edits it takes to turn one list of characters into another has a recursive
description by their first characters (`Text.distance`), and it is the least
number that there is (`Text.isLeast_distance`): so many edits do it
(`edits_distance`), and no fewer do, since an edit brings a list at most one
closer to any other (`Edit.distance_le`).

Edits can be undone, made one after the other, and made from the other end.
-/

namespace Colloquy.Text

/-- **An edit**: a single character is inserted, deleted or replaced. -/
inductive Edit : List Char → List Char → Prop
  /-- A character is inserted in front. -/
  | insert (c : Char) (cs : List Char) : Edit cs (c :: cs)
  /-- The first character is deleted. -/
  | delete (c : Char) (cs : List Char) : Edit (c :: cs) cs
  /-- The first character is replaced. -/
  | replace (c d : Char) (cs : List Char) : Edit (c :: cs) (d :: cs)
  /-- The edit is made behind the first character. -/
  | behind (c : Char) {cs ds : List Char} (edit : Edit cs ds) : Edit (c :: cs) (c :: ds)

/-- **So many edits**, one after the other. -/
inductive Edits : Nat → List Char → List Char → Prop
  /-- No edit is made. -/
  | none (cs : List Char) : Edits 0 cs cs
  /-- One edit is made before the others. -/
  | more {n : Nat} {cs ds es : List Char} (first : Edit cs ds) (others : Edits n ds es) :
      Edits (n + 1) cs es

variable {m n : Nat} {cs ds es : List Char}

/-! ## Edits at other places -/

/-- An edit is undone by an edit. -/
theorem Edit.symm (h : Edit cs ds) : Edit ds cs := by
  induction h with
  | insert c cs => exact .delete c cs
  | delete c cs => exact .insert c cs
  | replace c d cs => exact .replace d c cs
  | behind c edit ih => exact .behind c ih

/-- An edit can be made behind other characters. -/
theorem Edit.append_left (h : Edit cs ds) (before : List Char) :
    Edit (before ++ cs) (before ++ ds) := by
  induction before with
  | nil => exact h
  | cons c before ih => exact .behind c ih

/-- An edit can be made before other characters. -/
theorem Edit.append_right (h : Edit cs ds) (after : List Char) :
    Edit (cs ++ after) (ds ++ after) := by
  induction h with
  | insert c cs => exact .insert c (cs ++ after)
  | delete c cs => exact .delete c (cs ++ after)
  | replace c d cs => exact .replace c d (cs ++ after)
  | behind c edit ih => exact .behind c ih

/-- An edit can be made from the other end. -/
theorem Edit.reverse (h : Edit cs ds) : Edit cs.reverse ds.reverse := by
  induction h with
  | insert c cs => simpa using (Edit.insert c []).append_left cs.reverse
  | delete c cs => simpa using (Edit.delete c []).append_left cs.reverse
  | replace c d cs => simpa using (Edit.replace c d []).append_left cs.reverse
  | behind c edit ih => simpa using ih.append_right [c]

namespace Edits

/-- A further edit. -/
theorem concat (h : Edits n cs ds) (last : Edit ds es) : Edits (n + 1) cs es := by
  induction h with
  | none cs => exact .more last (.none es)
  | more first others ih => exact .more first (ih last)

/-- Edits behind the first character. -/
theorem behind (h : Edits n cs ds) (c : Char) : Edits n (c :: cs) (c :: ds) := by
  induction h with
  | none cs => exact .none (c :: cs)
  | more first others ih => exact .more (.behind c first) ih

/-- **Edits after edits.** -/
theorem trans (h : Edits m cs ds) (h' : Edits n ds es) : Edits (m + n) cs es := by
  induction h with
  | none cs => rwa [Nat.zero_add]
  | more first others ih =>
    rw [Nat.succ_add]
    exact .more first (ih h')

/-- **Edits can be undone**, the last one first. -/
theorem symm (h : Edits n cs ds) : Edits n ds cs := by
  induction h with
  | none cs => exact .none cs
  | more first others ih => exact ih.concat first.symm

/-- **Edits can be made from the other end.** -/
theorem reverse (h : Edits n cs ds) : Edits n cs.reverse ds.reverse := by
  induction h with
  | none cs => exact .none cs.reverse
  | more first others ih => exact .more first.reverse ih

theorem reverse_iff : Edits n cs.reverse ds.reverse ↔ Edits n cs ds :=
  ⟨fun h => by simpa using h.reverse, reverse⟩

theorem zero_iff : Edits 0 cs ds ↔ cs = ds :=
  ⟨fun h => by cases h; rfl, fun h => h ▸ .none cs⟩

/-- Characters are deleted one by one. -/
theorem delete_all (cs : List Char) : Edits cs.length cs [] := by
  induction cs with
  | nil => exact .none []
  | cons c cs ih => exact .more (.delete c cs) ih

end Edits

/-! ## The distance by first characters -/

/-- **The distance of two lists of characters**: the first character of the one
is deleted, or that of the other is inserted, or the one takes the place of the
other. -/
def distance : List Char → List Char → Nat
  | [], ds => ds.length
  | c :: cs, [] => (c :: cs).length
  | c :: cs, d :: ds =>
    min (min (distance cs (d :: ds) + 1) (distance (c :: cs) ds + 1))
      (distance cs ds + if c = d then 0 else 1)

theorem distance_nil_left (ds : List Char) : distance [] ds = ds.length := by
  rw [distance]

theorem distance_nil_right (cs : List Char) : distance cs [] = cs.length := by
  cases cs <;> rw [distance]

theorem distance_cons_cons (c d : Char) (cs ds : List Char) :
    distance (c :: cs) (d :: ds)
      = min (min (distance cs (d :: ds) + 1) (distance (c :: cs) ds + 1))
          (distance cs ds + if c = d then 0 else 1) := by
  rw [distance]

theorem distance_self (cs : List Char) : distance cs cs = 0 := by
  induction cs with
  | nil => exact distance_nil_left []
  | cons c cs ih => rw [distance_cons_cons, ih, if_pos rfl, Nat.add_zero, Nat.min_zero]

theorem distance_cons_left_le (c : Char) (cs ds : List Char) :
    distance (c :: cs) ds ≤ distance cs ds + 1 := by
  cases ds with
  | nil => rw [distance_nil_right, distance_nil_right, List.length_cons]
  | cons d ds =>
    rw [distance_cons_cons]
    exact (min_le_left _ _).trans (min_le_left _ _)

theorem distance_cons_right_le (d : Char) (cs ds : List Char) :
    distance cs (d :: ds) ≤ distance cs ds + 1 := by
  cases cs with
  | nil => rw [distance_nil_left, distance_nil_left, List.length_cons]
  | cons c cs =>
    rw [distance_cons_cons]
    exact (min_le_left _ _).trans (min_le_right _ _)

/-- **An edit brings a list at most one closer** to any other. -/
theorem Edit.distance_le (h : Edit cs ds) (es : List Char) :
    distance cs es ≤ distance ds es + 1 := by
  induction h generalizing es with
  | delete c cs => exact distance_cons_left_le c cs es
  | insert c cs =>
    induction es with
    | nil =>
      rw [distance_nil_right, distance_nil_right, List.length_cons]
      omega
    | cons e es ih =>
      have hstep := distance_cons_right_le e cs es
      rw [distance_cons_cons]
      omega
  | replace c d cs =>
    induction es with
    | nil =>
      rw [distance_nil_right, distance_nil_right, List.length_cons, List.length_cons]
      omega
    | cons e es ih =>
      rw [distance_cons_cons, distance_cons_cons]
      split_ifs <;> omega
  | @behind c cs ds edit ih =>
    -- the inner induction is on the other list, whose characters may be inserted before
    induction es with
    | nil =>
      have hnil := ih []
      rw [distance_nil_right, distance_nil_right] at hnil ⊢
      exact Nat.succ_le_succ hnil
    | cons e es ihes =>
      have htail := ih es
      have hcons := ih (e :: es)
      rw [distance_cons_cons, distance_cons_cons]
      split_ifs <;> omega

/-- So many edits bring two lists together only if they are no further apart. -/
theorem Edits.distance_le (h : Edits n cs ds) : distance cs ds ≤ n := by
  induction h with
  | none cs => exact (distance_self cs).le
  | more first others ih => exact (first.distance_le _).trans (Nat.succ_le_succ ih)

/-- **As many edits as the distance turn one list into the other.** -/
theorem edits_distance (cs ds : List Char) : Edits (distance cs ds) cs ds := by
  fun_induction distance cs ds with
  | case1 ds => exact (Edits.delete_all ds).symm
  | case2 c cs => exact .delete_all (c :: cs)
  | case3 c cs d ds ihDelete ihInsert ihReplace =>
    -- the edits of whichever of the three is the least
    rcases min_choice (min (distance cs (d :: ds) + 1) (distance (c :: cs) ds + 1))
      (distance cs ds + if c = d then 0 else 1) with hmin | hmin
    · rw [hmin]
      rcases min_choice (distance cs (d :: ds) + 1) (distance (c :: cs) ds + 1)
        with hmin | hmin
      · rw [hmin]
        exact .more (.delete c cs) ihDelete
      · rw [hmin]
        exact ihInsert.concat (.insert d ds)
    · rw [hmin]
      split_ifs with heq
      · exact heq ▸ ihReplace.behind c
      · exact .more (.replace c d cs) (ihReplace.behind d)

/-- **The distance is the least number of edits** that turn one list of
characters into the other. -/
theorem isLeast_distance (cs ds : List Char) : IsLeast {n | Edits n cs ds} (distance cs ds) :=
  ⟨edits_distance cs ds, fun _ h => h.distance_le⟩

end Colloquy.Text
