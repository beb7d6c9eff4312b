/-!
# White space and trimming

Everything in this library that trims a text – tool arguments, model
answers, file names, log lines – means the same set of characters by
*blank*: the Unicode property White_Space. A byte-order mark and a
zero-width space do not have the property and are kept.

Trimming works on lists of characters, where it is a `dropWhile` at
either end, and is carried to `String` at the end of the module. The
lemmas say what trimming leaves: `trimChars_eq_self`, a text whose two
ends are not blank, and `trimChars_append`, blanks put around a text
are the ones taken away.
-/

namespace Colloquy.Text

/-- **White space**: the twenty-five code points with the Unicode
property of that name. -/
def isBlank (c : Char) : Bool :=
  let n := c.toNat
  (9 ≤ n && n ≤ 13) || n == 0x20 || n == 0x85 || n == 0xA0 || n == 0x1680
    || (0x2000 ≤ n && n ≤ 0x200A) || n == 0x2028 || n == 0x2029
    || n == 0x202F || n == 0x205F || n == 0x3000

/-- A text without the blanks it begins with. -/
def trimStart (cs : List Char) : List Char :=
  cs.dropWhile isBlank

/-- A text without the blanks it ends with. -/
def trimEnd (cs : List Char) : List Char :=
  (cs.reverse.dropWhile isBlank).reverse

/-- **Trimming**: the blanks at both ends go, those inside stay. -/
def trimChars (cs : List Char) : List Char :=
  trimEnd (trimStart cs)

/-- Trimming of a string. -/
def trim (s : String) : String :=
  String.ofList (trimChars s.toList)

/-- Whether a text holds nothing but blanks. -/
def isBlankText (s : String) : Bool :=
  s.toList.all isBlank

@[simp] theorem trimStart_nil : trimStart [] = [] := rfl

theorem trimStart_cons_of_blank {c : Char} (h : isBlank c = true)
    (cs : List Char) : trimStart (c :: cs) = trimStart cs := by
  simp [trimStart, h]

theorem trimStart_cons_of_not_blank {c : Char} (h : isBlank c = false)
    (cs : List Char) : trimStart (c :: cs) = c :: cs := by
  simp [trimStart, h]

/-- Blanks in front are all removed. -/
theorem trimStart_append {b : List Char} (h : ∀ c ∈ b, isBlank c = true)
    (cs : List Char) : trimStart (b ++ cs) = trimStart cs := by
  induction b with
  | nil => rfl
  | cons c b ih =>
    rw [List.cons_append, trimStart_cons_of_blank (h c (by simp))]
    exact ih fun d hd => h d (List.mem_cons_of_mem c hd)

/-- Blanks at the end are all removed. -/
theorem trimEnd_append {b : List Char} (h : ∀ c ∈ b, isBlank c = true)
    (cs : List Char) : trimEnd (cs ++ b) = trimEnd cs := by
  unfold trimEnd
  rw [List.reverse_append]
  exact congrArg List.reverse
    (trimStart_append (fun c hc => h c (List.mem_reverse.mp hc)) cs.reverse)

theorem trimEnd_concat_of_not_blank {c : Char} (h : isBlank c = false)
    (cs : List Char) : trimEnd (cs ++ [c]) = cs ++ [c] := by
  simp [trimEnd, h]

/-- **A text whose two ends are not blank is left alone.** -/
theorem trimChars_eq_self {c d : Char} {cs : List Char}
    (hc : isBlank c = false) (hd : isBlank d = false)
    (hs : (c :: cs).getLast? = some d) : trimChars (c :: cs) = c :: cs := by
  rw [trimChars, trimStart_cons_of_not_blank hc]
  obtain ⟨ys, hys⟩ := List.getLast?_eq_some_iff.mp hs
  rw [hys]
  exact trimEnd_concat_of_not_blank hd ys

/-- **Blanks put around a text are the ones trimming takes away.** -/
theorem trimChars_append {a b cs : List Char}
    (ha : ∀ c ∈ a, isBlank c = true) (hb : ∀ c ∈ b, isBlank c = true)
    (hs : trimStart (cs ++ b) = cs ++ b) :
    trimChars (a ++ cs ++ b) = trimEnd cs := by
  rw [trimChars, List.append_assoc, trimStart_append ha, hs, trimEnd_append hb]

end Colloquy.Text
