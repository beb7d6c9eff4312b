import Colloquy.Json.Numeral
import Colloquy.Json.Printer
import Mathlib.Data.List.TakeWhile

/-!
# Numbers that read back

A number **reads back** if the reader makes the same number of its text and leaves nothing
over (`Number.ReadsBack`). Every integer does (`Number.readsBack_integer`). A double need
not: the reader rounds twice.

What follows a number does not change what is read, as long as the number does not go on
there (`Number.ReadsBack.read_append`): wherever the reader looks beyond its digits, it looks
for a further digit, a point or the mark of an exponent.
-/

namespace Colloquy.Json

open Decimal (isDigit digitValue digits)

/-- **A number reads back**: it is what its text is read as. -/
def Number.ReadsBack (n : Number) : Prop :=
  Numeral.read n.print = .ok (n, [])

namespace Numeral

/-- **No number goes on** at the start of a text. -/
def Stops (rest : List Char) : Prop :=
  ∀ c ∈ rest.head?, isDigit c = false ∧ c ≠ '.' ∧ c ≠ 'e' ∧ c ≠ 'E'

variable {rest cs : List Char} {n : Number} {negative : Bool} {significand : Nat} {start : Int}

theorem stops_nil : Stops [] := by
  intro c hc
  cases hc

/-! ## What follows a number -/

theorem takeWhile_append (h : Stops rest) (cs : List Char) :
    (cs ++ rest).takeWhile isDigit = cs.takeWhile isDigit := by
  induction cs with
  | nil =>
    cases rest with
    | nil => rfl
    | cons c rest => exact List.takeWhile_cons_of_neg (by simp [(h c rfl).1])
  | cons c cs ih =>
    rw [List.cons_append, List.takeWhile_cons, List.takeWhile_cons, ih]

theorem dropWhile_append (h : Stops rest) (cs : List Char) :
    (cs ++ rest).dropWhile isDigit = cs.dropWhile isDigit ++ rest := by
  induction cs with
  | nil =>
    cases rest with
    | nil => rfl
    | cons c rest => exact List.dropWhile_cons_of_neg (by simp [(h c rfl).1])
  | cons c cs ih =>
    rw [List.cons_append, List.dropWhile_cons, List.dropWhile_cons]
    split_ifs
    · exact ih
    · rfl

/-- What goes on with a number is in the text of the number. -/
theorem head?_append {c : Char} (h : Stops rest) (hc : c = '.' ∨ c = 'e' ∨ c = 'E')
    (cs : List Char) : ((cs ++ rest).head? == some c) = (cs.head? == some c) := by
  cases cs with
  | cons d cs => rfl
  | nil =>
    cases rest with
    | nil => rfl
    | cons d rest =>
      obtain ⟨-, hpoint, hsmall, hlarge⟩ := h d rfl
      have hne : d ≠ c := by rcases hc with rfl | rfl | rfl <;> assumption
      simpa using hne

theorem atExponent_append (h : Stops rest) (cs : List Char) :
    atExponent (cs ++ rest) = atExponent cs := by
  unfold atExponent
  rw [head?_append h (by simp), head?_append h (by simp)]

theorem length_pos_of_atExponent (h : atExponent cs = true) : 1 ≤ cs.length :=
  List.length_pos_iff.mpr (by rintro rfl; cases h)

theorem inRange_append {x : Option Number} {behind : List Char}
    (h : inRange x behind = .ok (n, [])) : inRange x (behind ++ rest) = .ok (n, rest) := by
  cases x with
  | none => cases h
  | some x =>
    cases h
    rfl

theorem readExponent_append (hrest : Stops rest)
    (h : readExponent negative significand start cs = .ok (n, [])) :
    readExponent negative significand start (cs ++ rest) = .ok (n, rest) := by
  obtain ⟨c, cs, rfl⟩ : ∃ c cs', cs = c :: cs' := by
    cases cs with
    | nil => cases h
    | cons c cs => exact ⟨c, cs, rfl⟩
  have hbody : (if (c == '-' || c == '+') = true then cs else c :: cs) ++ rest
      = if (c == '-' || c == '+') = true then cs ++ rest else c :: (cs ++ rest) := by
    split_ifs <;> rfl
  simp only [readExponent, List.cons_append, List.head?_cons, List.drop_one, List.tail_cons,
    Option.some_beq_some] at h ⊢
  rw [← hbody]
  generalize (if (c == '-' || c == '+') = true then cs else c :: cs) = body at h ⊢
  rw [takeWhile_append hrest, dropWhile_append hrest]
  split at h
  · cases h
  · split at h
    · exact inRange_append h
    · split_ifs at h ⊢
      exact inRange_append h

theorem readFraction_append (hrest : Stops rest)
    (h : readFraction negative significand start cs = .ok (n, [])) :
    readFraction negative significand start (cs ++ rest) = .ok (n, rest) := by
  simp only [readFraction] at h ⊢
  rw [takeWhile_append hrest, dropWhile_append hrest]
  split at h
  · cases h
  · rw [atExponent_append hrest]
    split_ifs at h ⊢ with hexponent
    · rw [List.drop_append_of_le_length (length_pos_of_atExponent hexponent)]
      exact readExponent_append hrest h
    · exact inRange_append h

theorem readBehind_append (hrest : Stops rest) {run : List Char}
    (h : readBehind negative run cs = .ok (n, [])) :
    readBehind negative run (cs ++ rest) = .ok (n, rest) := by
  simp only [readBehind] at h ⊢
  rw [head?_append hrest (.inl rfl), atExponent_append hrest]
  split_ifs at h ⊢ with hpoint hexponent
  · have hlength : 1 ≤ cs.length := List.length_pos_iff.mpr (by rintro rfl; cases hpoint)
    rw [List.drop_append_of_le_length hlength]
    exact readFraction_append hrest h
  · rw [List.drop_append_of_le_length (length_pos_of_atExponent hexponent)]
    exact readExponent_append hrest h
  · exact inRange_append h
  · exact inRange_append h

theorem readMagnitude_append (hrest : Stops rest)
    (h : readMagnitude negative cs = .ok (n, [])) :
    readMagnitude negative (cs ++ rest) = .ok (n, rest) := by
  cases cs with
  | nil => cases h
  | cons c cs =>
    simp only [readMagnitude, List.cons_append] at h ⊢
    split_ifs at h ⊢ with hzero hdigit
    · cases cs with
      | nil =>
        have hbehind : readBehind negative ['0'] ([] ++ rest) = .ok (n, rest) :=
          readBehind_append hrest h
        cases rest with
        | nil => exact hbehind
        | cons d rest =>
          dsimp only [List.nil_append]
          rw [if_neg (by simp [(hrest d rfl).1])]
          exact hbehind
      | cons d cs =>
        dsimp only [List.cons_append] at h ⊢
        split_ifs at h ⊢
        exact readBehind_append hrest h
    · rw [← List.cons_append, takeWhile_append hrest, dropWhile_append hrest]
      exact readBehind_append hrest h

theorem read_of_ne {c : Char} (h : c ≠ '-') (cs : List Char) :
    read (c :: cs) = readMagnitude false (c :: cs) := by
  unfold read
  split
  · rename_i heq
    exact absurd (List.cons.inj heq).1 h
  · rfl

/-- **What follows a number does not change it**, if the number does not go on there. -/
theorem read_append (hrest : Stops rest) (h : read cs = .ok (n, [])) :
    read (cs ++ rest) = .ok (n, rest) := by
  obtain ⟨c, cs, rfl⟩ : ∃ c cs', cs = c :: cs' := by
    cases cs with
    | nil => cases h
    | cons c cs => exact ⟨c, cs, rfl⟩
  by_cases hc : c = '-'
  · subst hc
    exact readMagnitude_append hrest h
  · rw [read_of_ne hc] at h
    rw [List.cons_append, read_of_ne hc]
    exact readMagnitude_append hrest h

/-! ## Integers -/

/-- Collecting digits never makes a number smaller. -/
theorem le_foldl_digits (n : Nat) (cs : List Char) :
    n ≤ cs.foldl (fun n c => 10 * n + digitValue c) n := by
  induction cs generalizing n with
  | nil => exact Nat.le_refl n
  | cons c cs ih =>
    calc n ≤ 10 * n + digitValue c := by omega
      _ ≤ _ := ih _

/-- Digits are collected as long as what they spell fits. -/
theorem collect_eq_foldl {n : Nat}
    (h : cs.foldl (fun n c => 10 * n + digitValue c) n < 0x10000000000000000) :
    collect n cs = (cs.foldl (fun n c => 10 * n + digitValue c) n, []) := by
  induction cs generalizing n with
  | nil => rfl
  | cons c cs ih =>
    rw [collect, if_pos (Nat.lt_of_le_of_lt (le_foldl_digits _ cs) h)]
    exact ih h

theorem collect_digits {n : Nat} (h : n < 0x10000000000000000) :
    collect 0 (digits n) = (n, []) := by
  have hvalue := Decimal.valueOf_digits n
  rw [Decimal.valueOf] at hvalue
  rw [collect_eq_foldl (hvalue.symm ▸ h), hvalue]

/-- A number other than zero is written without idle zeros. -/
theorem exists_digits_eq_cons {n : Nat} (h : n ≠ 0) :
    ∃ c cs, digits n = c :: cs ∧ c ≠ '0' := by
  induction n using Nat.strongRecOn with
  | ind n ih =>
    rw [digits]
    split
    · rename_i hlt
      refine ⟨_, _, rfl, fun heq => h ?_⟩
      have hvalue := Decimal.toNat_digitChar hlt
      rw [heq] at hvalue
      exact (Nat.add_right_cancel (m := 48) hvalue).symm
    · obtain ⟨c, cs, hcs, hc⟩ := ih (n / 10) (by omega) (by omega)
      exact ⟨c, _, by rw [hcs]; rfl, hc⟩

theorem readBehind_digits {n : Nat} (h : n < 0x10000000000000000) :
    readBehind negative (digits n) [] = inRange (whole? negative n) [] := by
  rw [readBehind, collect_digits h]
  rfl

/-- **The digits of a number are read as it.** -/
theorem readMagnitude_digits {n : Nat} (h : n < 0x10000000000000000) :
    readMagnitude negative (digits n) = inRange (whole? negative n) [] := by
  by_cases hzero : n = 0
  · subst hzero
    rw [← readBehind_digits h]
    simp [digits, readMagnitude, Decimal.digitChar]
  · obtain ⟨c, cs, hcs, hc⟩ := exists_digits_eq_cons hzero
    have hdigits : ∀ d ∈ c :: cs, isDigit d = true := hcs ▸ Decimal.isDigit_of_mem_digits n
    rw [← readBehind_digits h, hcs]
    simp only [readMagnitude]
    rw [if_neg hc, if_pos (hdigits c List.mem_cons_self),
      List.takeWhile_eq_self_iff.mpr hdigits, List.dropWhile_eq_nil_iff.mpr hdigits]

/-- The sign and the size of an integer that fits are read as it. -/
theorem whole?_natAbs {i : Int} (h : -0x8000000000000000 ≤ i ∧ i < 0x10000000000000000) :
    whole? (decide (i < 0)) i.natAbs = some (.integer i h) := by
  have hofInt : Number.ofInt? i = some (.integer i h) := dif_pos h
  unfold whole?
  by_cases hneg : i < 0
  · have hne : i.natAbs ≠ 0 := by omega
    have hi : -(i.natAbs : Int) = i := by omega
    simp only [hneg, hne, decide_true, decide_false, Bool.true_and, Bool.false_eq_true, if_false,
      if_true, hi, hofInt]
  · have hi : (i.natAbs : Int) = i := by omega
    simp only [hneg, decide_false, Bool.false_and, Bool.false_eq_true, if_false, hi, hofInt]

/-- Without a sign, the digits of a number are all there is to it. -/
theorem read_digits (n : Nat) : read (digits n) = readMagnitude false (digits n) := by
  obtain ⟨c, cs, hcs⟩ := List.exists_cons_of_ne_nil (Decimal.digits_ne_nil n)
  have hdigit := Decimal.isDigit_of_mem_digits n c (hcs ▸ List.mem_cons_self)
  have hc : c ≠ '-' := by
    rintro rfl
    exact absurd hdigit (by decide)
  rw [hcs, read_of_ne hc]

end Numeral

/-- **Every integer reads back.** -/
theorem Number.readsBack_integer {i : Int}
    (h : -0x8000000000000000 ≤ i ∧ i < 0x10000000000000000) : (Number.integer i h).ReadsBack := by
  have hfits : i.natAbs < 0x10000000000000000 := by omega
  have hread : Numeral.read (Decimal.integer i)
      = Numeral.readMagnitude (decide (i < 0)) (digits i.natAbs) := by
    unfold Decimal.integer
    by_cases hneg : i < 0
    · rw [if_pos hneg, decide_eq_true hneg]
      rfl
    · rw [if_neg hneg, decide_eq_false hneg]
      exact Numeral.read_digits i.natAbs
  unfold Number.ReadsBack Number.print
  rw [hread, Numeral.readMagnitude_digits hfits, Numeral.whole?_natAbs h]
  rfl

/-- **A number that reads back does so in front of anything**, if it does not go on there. -/
theorem Number.ReadsBack.read_append {n : Number} {rest : List Char} (h : n.ReadsBack)
    (hrest : Numeral.Stops rest) : Numeral.read (n.print ++ rest) = .ok (n, rest) :=
  Numeral.read_append hrest h

/-- Its text begins with a sign or a digit. -/
theorem Number.ReadsBack.exists_print_eq_cons {n : Number} (h : n.ReadsBack) :
    ∃ c cs, n.print = c :: cs ∧ (c = '-' ∨ isDigit c = true) := by
  unfold Number.ReadsBack at h
  cases hprint : n.print with
  | nil =>
    rw [hprint] at h
    cases h
  | cons c cs =>
    refine ⟨c, cs, rfl, or_iff_not_imp_left.mpr fun hc => ?_⟩
    rw [hprint, Numeral.read_of_ne hc] at h
    simp only [Numeral.readMagnitude] at h
    split_ifs at h with hzero hdigit
    · subst hzero
      rfl
    · exact hdigit

end Colloquy.Json
