import Colloquy.Decimal.Shortest

/-!
# What displayed numbers look like

A number that is displayed has some text, and there are only a few characters in it: digits, a
point, a minus sign, and the letters of what is infinite or not a number
(`Extended.isNumeral_of_mem_display`). That is known without knowing which digits are chosen.
-/

namespace Colloquy.Decimal

variable {f : Format} {c : Char}

/-- **The characters of displayed numbers.** -/
def IsNumeral (c : Char) : Prop :=
  isDigit c = true ∨ c ∈ ['.', '-', 'i', 'n', 'f', 'N', 'a']

instance : DecidablePred IsNumeral := fun c =>
  inferInstanceAs (Decidable (isDigit c = true ∨ c ∈ ['.', '-', 'i', 'n', 'f', 'N', 'a']))

/-- The significant digits of a decimal are digits. -/
theorem isDigit_of_mem_significant {d : Nat} {e : Int} (h : c ∈ (Scaled.significant d e).digits) :
    isDigit c = true := by
  have hmem : c ∈ (digits d).reverse.dropWhile (· == '0') := List.mem_reverse.mp h
  have hdigits : c ∈ (digits d).reverse := (List.dropWhile_sublist _).mem hmem
  exact isDigit_of_mem_digits d c (List.mem_reverse.mp hdigits)

/-- The digits of the shortest decimal are those of some decimal. -/
theorem exists_shortest_eq (x : Scaled) (halves : Halves) :
    ∃ d e, x.shortest halves = Scaled.significant d e := by
  unfold Scaled.shortest
  dsimp only
  generalize hfound : (List.range 17).findSome? _ = found
  cases found with
  | none => exact ⟨_, _, rfl⟩
  | some s =>
    obtain ⟨n, -, hn⟩ := List.exists_of_findSome?_eq_some hfound
    obtain ⟨d, -, rfl⟩ := Option.map_eq_some_iff.mp hn
    exact ⟨d, _, rfl⟩

theorem isDigit_of_mem_shortest {x : Scaled} {halves : Halves}
    (h : c ∈ (x.shortest halves).digits) : isDigit c = true := by
  obtain ⟨d, e, hshortest⟩ := exists_shortest_eq x halves
  rw [hshortest] at h
  exact isDigit_of_mem_significant h

/-- Around a point there are digits. -/
theorem Layout.isNumeral_of_mem_positionalText {layout : Layout} {s : Significant}
    (hs : ∀ c ∈ s.digits, isDigit c = true) (h : c ∈ layout.positionalText s) : IsNumeral c := by
  have hzero : IsNumeral '0' := by decide
  have hpoint : IsNumeral '.' := by decide
  unfold positionalText at h
  split at h
  · simp only [List.mem_append, List.mem_cons, List.not_mem_nil, or_false,
      List.mem_replicate] at h
    rcases h with ((rfl | rfl) | ⟨-, rfl⟩) | h
    · exact hzero
    · exact hpoint
    · exact hzero
    · exact .inl (hs c h)
  · split at h
    · simp only [List.mem_append, List.mem_replicate] at h
      rcases h with (h | ⟨-, rfl⟩) | h
      · exact .inl (hs c h)
      · exact hzero
      · split at h
        · simp only [List.mem_cons, List.not_mem_nil, or_false] at h
          rcases h with rfl | rfl
          · exact hpoint
          · exact hzero
        · cases h
    · simp only [List.mem_append, List.mem_cons] at h
      rcases h with h | rfl | h
      · exact .inl (hs c (List.mem_of_mem_take h))
      · exact hpoint
      · exact .inl (hs c (List.mem_of_mem_drop h))

theorem Layout.positionalText_ne_nil (layout : Layout) (s : Significant) :
    layout.positionalText s ≠ [] := by
  unfold positionalText
  split
  · simp
  · split
    · rename_i hpoint hlength
      intro hnil
      simp only [List.append_eq_nil_iff, List.replicate_eq_nil_iff] at hnil
      obtain ⟨⟨hdigits, hzeros⟩, -⟩ := hnil
      rw [hdigits] at hzeros
      simp at hzeros
      omega
    · simp

/-- **A displayed number has no other characters.** -/
theorem Extended.isNumeral_of_mem_display {x : Extended f} (h : c ∈ x.display.toList) :
    IsNumeral c := by
  cases x with
  | notANumber =>
    have hletter : c = 'N' ∨ c = 'a' ∨ c = 'N' := by simpa [display] using h
    rcases hletter with rfl | rfl | rfl <;> decide
  | infinite negative =>
    have hletter : c = '-' ∨ c = 'i' ∨ c = 'n' ∨ c = 'f' := by
      cases negative
      · exact .inr (by simpa [display] using h)
      · simpa [display] using h
    rcases hletter with rfl | rfl | rfl | rfl <;> decide
  | finite x =>
    rw [display, String.toList_ofList, Layout.text, List.mem_append] at h
    rcases h with hsign | hmagnitude
    · split at hsign
      · rw [List.mem_singleton.mp hsign]
        decide
      · cases hsign
    · unfold Layout.magnitudeText at hmagnitude
      split at hmagnitude
      · have hzero : c = '0' := by simpa [plainLayout] using hmagnitude
        rw [hzero]
        decide
      · exact Layout.isNumeral_of_mem_positionalText (fun _ => isDigit_of_mem_shortest) hmagnitude

/-- **A displayed number has a text.** -/
theorem Extended.display_ne_empty (x : Extended f) : x.display ≠ "" := by
  cases x with
  | notANumber => exact (by decide : "NaN" ≠ "")
  | infinite negative =>
    cases negative
    · exact (by decide : "inf" ≠ "")
    · exact (by decide : "-inf" ≠ "")
  | finite x =>
    intro hempty
    have hnil : plainLayout.text x = [] := String.ofList_eq_empty_iff.mp hempty
    have hmagnitude : plainLayout.magnitudeText x.scaled = [] :=
      (List.append_eq_nil_iff.mp hnil).2
    unfold Layout.magnitudeText at hmagnitude
    split at hmagnitude
    · cases hmagnitude
    · exact Layout.positionalText_ne_nil _ _ hmagnitude

end Colloquy.Decimal
