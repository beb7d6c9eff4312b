import Colloquy.Config.Check
import Colloquy.Proofs.Text.EditDistance
import Mathlib.Data.List.Induction

/-!
# Suggestions

For a name that nobody knows, the known name is suggested that fewest edits turn
it into, the first of several (`Config.NearestAt`), unless it takes more than
three. The known names are gone through one by one, and what is kept is the
nearest so far, or nothing as long as all are too far (`Config.IsBest`).
-/

namespace Colloquy.Config

open Text (editDistance)

variable {unknown name : String} {known : List String} {best : Option (String × Nat)}

/-- **A known name is the nearest** to an unknown one: none is nearer, and none
before it is as near. -/
structure NearestAt (unknown : String) (known : List String) (i : Nat) (name : String) :
    Prop where
  /-- It is one of the known names. -/
  there : known[i]? = some name
  /-- No known name is nearer. -/
  least : ∀ other ∈ known, editDistance unknown name ≤ editDistance unknown other
  /-- Those before it are farther. -/
  first : ∀ j < i, ∀ other, known[j]? = some other →
    editDistance unknown name < editDistance unknown other

theorem NearestAt.mem {i : Nat} (h : NearestAt unknown known i name) : name ∈ known :=
  List.mem_of_getElem? h.there

/-- **There is one nearest name.** -/
theorem NearestAt.unique {i i' : Nat} {name' : String} (h : NearestAt unknown known i name)
    (h' : NearestAt unknown known i' name') : name = name' := by
  rcases Nat.lt_trichotomy i i' with hlt | rfl | hlt
  · exact absurd (h'.first i hlt name h.there) (Nat.not_lt.mpr (h.least name' h'.mem))
  · exact Option.some.inj (h.there.symm.trans h'.there)
  · exact absurd (h.first i' hlt name' h'.there) (Nat.not_lt.mpr (h'.least name h.mem))

/-- It stays the nearest if a further name is no nearer. -/
theorem NearestAt.concat {i : Nat} (h : NearestAt unknown known i name) {other : String}
    (hother : editDistance unknown name ≤ editDistance unknown other) :
    NearestAt unknown (known ++ [other]) i name := by
  have hi : i < known.length := (List.getElem?_eq_some_iff.mp h.there).1
  refine ⟨(List.getElem?_append_left hi).trans h.there, ?_, fun j hj other' hother' => ?_⟩
  · exact List.forall_mem_append.mpr ⟨h.least, List.forall_mem_singleton.mpr hother⟩
  · rw [List.getElem?_append_left (hj.trans hi)] at hother'
    exact h.first j hj other' hother'

/-- A further name is the nearest if all others are farther. -/
theorem nearestAt_concat
    (h : ∀ other ∈ known, editDistance unknown name < editDistance unknown other) :
    NearestAt unknown (known ++ [name]) known.length name := by
  refine ⟨List.getElem?_concat_length, ?_, fun j hj other hother => ?_⟩
  · exact List.forall_mem_append.mpr
      ⟨fun other hother => (h other hother).le, List.forall_mem_singleton.mpr (Nat.le_refl _)⟩
  · rw [List.getElem?_append_left hj] at hother
    exact h other (List.mem_of_getElem? hother)

/-- **What is kept of known names**: the nearest with its distance, or nothing if
all are too far. -/
inductive IsBest (unknown : String) (known : List String) : Option (String × Nat) → Prop
  /-- All of them are too far. -/
  | far (far : ∀ other ∈ known, farthest < editDistance unknown other) : IsBest unknown known none
  /-- One is near enough, and the nearest. -/
  | near {i : Nat} {name : String} (near : editDistance unknown name ≤ farthest)
      (nearest : NearestAt unknown known i name) :
      IsBest unknown known (some (name, editDistance unknown name))

/-- **The nearest is kept** when one more name is looked at. -/
theorem IsBest.nearer (h : IsBest unknown known best) (other : String) :
    IsBest unknown (known ++ [other]) (nearer unknown best other) := by
  unfold Config.nearer
  dsimp only
  by_cases hfar : farthest < editDistance unknown other
  · -- a name that is too far changes nothing
    rw [if_pos hfar]
    cases h with
    | far far => exact .far (List.forall_mem_append.mpr ⟨far, List.forall_mem_singleton.mpr hfar⟩)
    | near near nearest => exact .near near (nearest.concat (near.trans hfar.le))
  · rw [if_neg hfar]
    have hnear := Nat.not_lt.mp hfar
    cases h with
    | far far =>
      exact .near hnear (nearestAt_concat fun other' hother' => hnear.trans_lt (far other' hother'))
    | @near i name near nearest =>
      show IsBest _ _ (if _ then _ else _)
      split_ifs with hlt
      · exact .near hnear
          (nearestAt_concat fun other' hother' => hlt.trans_le (nearest.least other' hother'))
      · exact .near near (nearest.concat (Nat.not_lt.mp hlt))

/-- **What is kept in the end.** -/
theorem isBest_foldl (unknown : String) (known : List String) :
    IsBest unknown known (known.foldl (nearer unknown) none) := by
  induction known using List.reverseRecOn with
  | nil => exact .far (fun _ h => by cases h)
  | append_singleton known other ih =>
    rw [List.foldl_append]
    exact ih.nearer other

/-- **The name that is suggested is the nearest**, if it is near enough. -/
theorem nearest?_eq_some_iff :
    nearest? unknown known = some name
      ↔ editDistance unknown name ≤ farthest ∧ ∃ i, NearestAt unknown known i name := by
  have hbest := isBest_foldl unknown known
  unfold nearest?
  generalize known.foldl (nearer unknown) none = best at hbest
  cases hbest with
  | far far =>
    refine ⟨nofun, fun ⟨hnear, i, hnearest⟩ => ?_⟩
    exact absurd (far name hnearest.mem) (Nat.not_lt.mpr hnear)
  | @near i name' near nearest =>
    rw [Option.map_some, Option.some_inj]
    constructor
    · rintro rfl
      exact ⟨near, i, nearest⟩
    · rintro ⟨-, i', nearest'⟩
      exact nearest.unique nearest'

/-- **None is suggested if all are too far.** -/
theorem nearest?_eq_none_iff :
    nearest? unknown known = none ↔ ∀ name ∈ known, farthest < editDistance unknown name := by
  have hbest := isBest_foldl unknown known
  unfold nearest?
  generalize known.foldl (nearer unknown) none = best at hbest
  cases hbest with
  | far far => exact ⟨fun _ => far, fun _ => rfl⟩
  | @near i name near nearest =>
    refine ⟨nofun, fun h => ?_⟩
    exact absurd (h name nearest.mem) (Nat.not_lt.mpr near)

/-- **Suggestions go by the least number of edits.** The edit distance of two
texts is the least number of insertions, deletions and replacements of single
characters that turn the one into the other, and so is every entry of the table
it is taken from, all of which are there. It is a distance: the same both ways,
zero only between equal texts, and no longer than any way round. What is
suggested for an unknown name is the first known one at the least distance, if
that is at most three, and nothing otherwise. -/
theorem suggestion?_by_least_edits :
    (∀ a b, IsLeast {n | Text.Edits n a.toList b.toList} (editDistance a b))
      ∧ (∀ a b, Text.Filled a b ∧ ∀ i j n, (Text.rowBehind a b i)[j]? = some n →
        IsLeast {n | Text.Edits n (a.toList.take i) (b.toList.take j)} n)
      ∧ (∀ a b, editDistance a b = editDistance b a)
      ∧ (∀ a b, editDistance a b = 0 ↔ a = b)
      ∧ (∀ a b c, editDistance a c ≤ editDistance a b + editDistance b c)
      ∧ (∀ unknown known s, suggestion? unknown known = some s
        ↔ ∃ i name, NearestAt unknown known i name ∧ editDistance unknown name ≤ 3
          ∧ s = s!"did you mean '{name}'?")
      ∧ (∀ unknown known, suggestion? unknown known = none
        ↔ ∀ name ∈ known, 3 < editDistance unknown name) := by
  refine ⟨Text.isLeast_editDistance, fun a b => ⟨Text.filled a b, fun i j n =>
    Text.isLeast_rowBehind⟩, Text.editDistance_comm, fun a b => Text.editDistance_eq_zero_iff,
    Text.editDistance_triangle, fun unknown known s => ?_, fun unknown known => ?_⟩
  · unfold suggestion?
    rw [Option.map_eq_some_iff]
    constructor
    · rintro ⟨name, hname, rfl⟩
      obtain ⟨hnear, i, hnearest⟩ := nearest?_eq_some_iff.mp hname
      exact ⟨i, name, hnearest, hnear, rfl⟩
    · rintro ⟨i, name, hnearest, hnear, rfl⟩
      exact ⟨name, nearest?_eq_some_iff.mpr ⟨hnear, i, hnearest⟩, rfl⟩
  · unfold suggestion?
    rw [Option.map_eq_none_iff]
    exact nearest?_eq_none_iff

end Colloquy.Config
