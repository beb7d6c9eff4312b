/-!
# Decimal digits of a natural number

The digits a number is written with, most significant first, and the
number a run of digits stands for. `valueOf_digits` says the two agree,
and `digits_ne_nil` and `isDigit_of_mem_digits` say what a written
number looks like to a reader.
-/

namespace Colloquy.Decimal

/-- The digit with a given value below ten. -/
def digitChar (d : Nat) : Char :=
  Char.ofNat (d + 48)

/-- The value of a digit. -/
def digitValue (c : Char) : Nat :=
  c.toNat - 48

/-- Whether a character is one of the ten digits. -/
def isDigit (c : Char) : Bool :=
  48 ≤ c.toNat && c.toNat ≤ 57

/-- **The digits of a number**, most significant first; zero has one. -/
def digits (n : Nat) : List Char :=
  if n < 10 then [digitChar n]
  else digits (n / 10) ++ [digitChar (n % 10)]

/-- **The number a run of digits stands for.** -/
def valueOf (cs : List Char) : Nat :=
  cs.foldl (fun n c => 10 * n + digitValue c) 0

/-- An integer in decimal: a minus sign where it is negative. -/
def integer (i : Int) : List Char :=
  if i < 0 then '-' :: digits i.natAbs else digits i.natAbs

theorem toNat_digitChar : ∀ {d : Nat}, d < 10 → (digitChar d).toNat = d + 48 := by
  decide

theorem digitValue_digitChar {d : Nat} (h : d < 10) :
    digitValue (digitChar d) = d := by
  rw [digitValue, toNat_digitChar h]
  omega

theorem isDigit_digitChar {d : Nat} (h : d < 10) :
    isDigit (digitChar d) = true := by
  simp only [isDigit, toNat_digitChar h, Bool.and_eq_true, decide_eq_true_eq]
  omega

theorem digits_ne_nil (n : Nat) : digits n ≠ [] := by
  rw [digits]
  split <;> simp

/-- Every character a number is written with is a digit. -/
theorem isDigit_of_mem_digits (n : Nat) :
    ∀ c ∈ digits n, isDigit c = true := by
  induction n using Nat.strongRecOn with
  | ind n ih =>
    intro c hc
    rw [digits] at hc
    split at hc
    · rename_i h
      rw [List.mem_singleton.mp hc]
      exact isDigit_digitChar h
    · rename_i h
      rcases List.mem_append.mp hc with hc | hc
      · exact ih (n / 10) (by omega) c hc
      · rw [List.mem_singleton.mp hc]
        exact isDigit_digitChar (Nat.mod_lt n (by decide))

/-- One more digit multiplies by ten. -/
theorem valueOf_concat (cs : List Char) (c : Char) :
    valueOf (cs ++ [c]) = 10 * valueOf cs + digitValue c := by
  simp [valueOf]

/-- **What is written reads back.** -/
theorem valueOf_digits (n : Nat) : valueOf (digits n) = n := by
  induction n using Nat.strongRecOn with
  | ind n ih =>
    rw [digits]
    split
    · rename_i h
      simp [valueOf, digitValue_digitChar h]
    · rename_i h
      rw [valueOf_concat, ih (n / 10) (by omega),
        digitValue_digitChar (Nat.mod_lt n (by decide))]
      omega

end Colloquy.Decimal
