import Colloquy.Proofs.Text.Edits
import Colloquy.Text.EditDistance

/-!
# The table of edit distances

The rows that `Text.editDistance` goes through make up a table: behind the first
`i` characters of the one text, a row has at its place `j` the least number of
edits between these and the first `j` characters of the other
(`Text.rowBehind_getElem?`). What keeps this up is one step, from a row to the
next (`nextRow_distances`); the distances are taken from the other end there, so
that a further character of a text comes first (`Text.distance`).

Every row has all its entries, so that none is ever looked for where the table
has none (`Text.Filled`).
-/

namespace Colloquy.Text

variable {cs ds : List Char} {a b : String}

/-- **A row of distances**: those of `cs` and `before`, of `cs` and `before` with
one more character in front, and so on. -/
def distances (cs before : List Char) : List Char → List Nat
  | [] => [distance cs before]
  | d :: ds => distance cs before :: distances cs (d :: before) ds

theorem distances_eq_cons (cs before ds : List Char) :
    distances cs before ds = distance cs before :: (distances cs before ds).tail := by
  cases ds <;> rfl

/-- **A row has an entry for each part** of the other text. -/
theorem getElem?_distances {j : Nat} (before : List Char) (h : j ≤ ds.length) :
    (distances cs before ds)[j]? = some (distance cs ((ds.take j).reverse ++ before)) := by
  induction ds generalizing j before with
  | nil =>
    obtain rfl := Nat.le_zero.mp h
    rfl
  | cons d ds ih =>
    cases j with
    | zero => rfl
    | succ j =>
      show (distances cs (d :: before) ds)[j]? = _
      rw [ih (d :: before) (Nat.le_of_succ_le_succ h)]
      simp

theorem length_distances (before : List Char) :
    (distances cs before ds).length = ds.length + 1 := by
  induction ds generalizing before with
  | nil => rfl
  | cons d ds ih => exact congrArg (· + 1) (ih (d :: before))

/-- The first row counts the characters of the parts. -/
theorem distances_nil_left (before ds : List Char) :
    distances [] before ds = List.range' before.length (ds.length + 1) := by
  induction ds generalizing before with
  | nil =>
    show [distance [] before] = _
    rw [distance_nil_left]
    rfl
  | cons d ds ih =>
    show distance [] before :: distances [] (d :: before) ds = _
    rw [distance_nil_left, ih (d :: before)]
    rfl

/-- **A row is made from the one above** to the right of its first entry. -/
theorem extendRow_distances (c : Char) (cs before ds : List Char) :
    extendRow c (distance (c :: cs) before) ds (distances cs before ds)
      = (distances (c :: cs) before ds).tail := by
  induction ds generalizing before with
  | nil => rfl
  | cons d ds ih =>
    have hrow := distances_eq_cons cs (d :: before) ds
    have hentry := distance_cons_cons c d cs before
    show extendRow c _ (d :: ds) (distance cs before :: distances cs (d :: before) ds)
      = distances (c :: cs) (d :: before) ds
    rw [hrow, extendRow, ← hrow, ← hentry, ih (d :: before)]
    exact (distances_eq_cons (c :: cs) (d :: before) ds).symm

/-- **The next row is the one behind one more character.** -/
theorem nextRow_distances (c : Char) (cs ds : List Char) :
    nextRow c ds (distances cs [] ds) = distances (c :: cs) [] ds := by
  have hfirst : (distances cs [] ds).headD 0 + 1 = distance (c :: cs) [] := by
    rw [distances_eq_cons, distance_nil_right, distance_nil_right]
    rfl
  unfold nextRow
  dsimp only
  rw [hfirst, extendRow_distances]
  exact (distances_eq_cons (c :: cs) [] ds).symm

/-- **Row by row**, the distances come behind all characters. -/
theorem lastRow_distances (ds before cs : List Char) :
    lastRow ds (distances before [] ds) cs = distances (cs.reverse ++ before) [] ds := by
  induction cs generalizing before with
  | nil => rfl
  | cons c cs ih =>
    rw [lastRow, nextRow_distances, ih (c :: before), List.reverse_cons, List.append_assoc]
    rfl

/-- **The row behind the first characters** of a text. -/
def rowBehind (a b : String) (i : Nat) : List Nat :=
  lastRow b.toList (List.range (b.toList.length + 1)) (a.toList.take i)

theorem rowBehind_eq (a b : String) (i : Nat) :
    rowBehind a b i = distances (a.toList.take i).reverse [] b.toList := by
  have hfirst : List.range (b.toList.length + 1) = distances [] [] b.toList := by
    rw [distances_nil_left, List.range_eq_range']
    rfl
  rw [rowBehind, hfirst, lastRow_distances, List.append_nil]

theorem rowBehind_getElem? {i j : Nat} (h : j ≤ b.toList.length) :
    (rowBehind a b i)[j]?
      = some (distance (a.toList.take i).reverse (b.toList.take j).reverse) := by
  rw [rowBehind_eq, getElem?_distances [] h, List.append_nil]

/-- **The table is filled**, as distances of parts of two texts are: each entry
is there, and so are all that it is made of. -/
structure Filled (a b : String) : Prop where
  /-- Every row has an entry for each part of the other text. -/
  full : ∀ i, (rowBehind a b i).length = b.toList.length + 1
  /-- The first row counts the characters that are to be inserted. -/
  top : ∀ j ≤ b.toList.length, (rowBehind a b 0)[j]? = some j
  /-- The first column counts the characters that are to be deleted. -/
  side : ∀ i ≤ a.toList.length, (rowBehind a b i)[0]? = some i
  /-- Any other entry is made of the three entries above it and to its left. -/
  inner : ∀ i j c d, a.toList[i]? = some c → b.toList[j]? = some d →
    ∃ diagonal above left,
      (rowBehind a b i)[j]? = some diagonal ∧ (rowBehind a b i)[j + 1]? = some above
        ∧ (rowBehind a b (i + 1))[j]? = some left
        ∧ (rowBehind a b (i + 1))[j + 1]?
          = some (min (min (above + 1) (left + 1)) (diagonal + if c = d then 0 else 1))
  /-- The last entry of all is the edit distance. -/
  last : (rowBehind a b a.toList.length)[b.toList.length]? = some (editDistance a b)

theorem reverse_take_succ {i : Nat} {c : Char} (h : cs[i]? = some c) :
    (cs.take (i + 1)).reverse = c :: (cs.take i).reverse := by
  rw [List.take_add_one, h]
  simp

/-- **The edit distance is the distance from the other end.** -/
theorem editDistance_eq (a b : String) :
    editDistance a b = distance a.toList.reverse b.toList.reverse := by
  have hrow : lastRow b.toList (List.range (b.toList.length + 1)) a.toList
      = rowBehind a b a.toList.length := by
    rw [rowBehind, List.take_length]
  have hlast := rowBehind_getElem? (a := a) (i := a.toList.length) (Nat.le_refl b.toList.length)
  rw [List.take_length, List.take_length] at hlast
  rw [editDistance, hrow, List.getLastD_eq_getLast?, List.getLast?_eq_getElem?, rowBehind_eq,
    length_distances, Nat.add_sub_cancel, ← rowBehind_eq, hlast]
  rfl

theorem filled (a b : String) : Filled a b where
  full i := by rw [rowBehind_eq, length_distances]
  top j h := by
    rw [rowBehind_getElem? h, List.take_zero, List.reverse_nil, distance_nil_left,
      List.length_reverse, List.length_take, Nat.min_eq_left h]
  side i h := by
    rw [rowBehind_getElem? (Nat.zero_le _), List.take_zero, List.reverse_nil,
      distance_nil_right, List.length_reverse, List.length_take, Nat.min_eq_left h]
  inner i j c d hc hd := by
    have hj : j + 1 ≤ b.toList.length := (List.getElem?_eq_some_iff.mp hd).1
    refine ⟨_, _, _, rowBehind_getElem? (Nat.le_of_succ_le hj), rowBehind_getElem? hj,
      rowBehind_getElem? (Nat.le_of_succ_le hj), ?_⟩
    rw [rowBehind_getElem? hj, reverse_take_succ hc, reverse_take_succ hd, distance_cons_cons]
  last := by
    rw [rowBehind_getElem? (Nat.le_refl _), List.take_length, List.take_length,
      editDistance_eq]

/-- **An entry of the table is the least number of edits** between the parts of
the texts. -/
theorem isLeast_rowBehind {i j n : Nat} (h : (rowBehind a b i)[j]? = some n) :
    IsLeast {n | Edits n (a.toList.take i) (b.toList.take j)} n := by
  have hj : j < (rowBehind a b i).length := (List.getElem?_eq_some_iff.mp h).1
  rw [(filled a b).full] at hj
  rw [rowBehind_getElem? (Nat.le_of_lt_succ hj), Option.some_inj] at h
  obtain rfl := h
  simpa only [Edits.reverse_iff] using
    isLeast_distance (a.toList.take i).reverse (b.toList.take j).reverse

/-- **The edit distance is the least number of edits** that turn the one text
into the other. -/
theorem isLeast_editDistance (a b : String) :
    IsLeast {n | Edits n a.toList b.toList} (editDistance a b) := by
  simpa only [List.take_length] using isLeast_rowBehind (filled a b).last

/-! ## The edit distance as a distance -/

theorem editDistance_comm (a b : String) : editDistance a b = editDistance b a := by
  have hle (a b : String) : editDistance a b ≤ editDistance b a :=
    (isLeast_editDistance a b).2 (isLeast_editDistance b a).1.symm
  exact Nat.le_antisymm (hle a b) (hle b a)

theorem editDistance_eq_zero_iff : editDistance a b = 0 ↔ a = b := by
  constructor
  · intro h
    have hedits := (isLeast_editDistance a b).1
    rw [h] at hedits
    exact String.toList_injective (Edits.zero_iff.mp hedits)
  · rintro rfl
    exact Nat.le_zero.mp ((isLeast_editDistance a a).2 (.none a.toList))

theorem editDistance_triangle (a b c : String) :
    editDistance a c ≤ editDistance a b + editDistance b c :=
  (isLeast_editDistance a c).2
    ((isLeast_editDistance a b).1.trans (isLeast_editDistance b c).1)

example : editDistance "kitten" "sitting" = 3 := by decide +kernel

end Colloquy.Text
