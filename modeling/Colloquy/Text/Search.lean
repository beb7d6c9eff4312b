/-!
# Finding a text inside another

Three questions are asked of free text by looking for a fixed phrase in
it regardless of case: whether an argument name speaks of a credential,
whether a provider's complaint is about the answer schema, and whether a
response stopped at its length limit. The phrases are all ASCII, so what
matters of the lower-casing is only which characters become ASCII ones.
-/

namespace Colloquy.Text

/-- Whether `needle` occurs in a text, at whatever place. -/
def occursIn (needle : List Char) : List Char → Bool
  | [] => needle.isEmpty
  | c :: cs => needle.isPrefixOf (c :: cs) || occursIn needle cs

/-- **The small form of a character**, as far as ASCII is concerned: the
capital ASCII letters, and the only two other characters whose small
form contains an ASCII letter – the Kelvin sign and the capital I with a
dot. Every other character's small form is made of non-ASCII characters
only, so leaving it as it is changes no search for an ASCII phrase. -/
def smallForm (c : Char) : List Char :=
  if 'A' ≤ c ∧ c ≤ 'Z' then [Char.ofNat (c.toNat + 32)]
  else if c = '\u212a' then ['k']
  else if c = '\u0130' then ['i', '\u0307']
  else [c]

/-- A text in small letters, for searching. -/
def inSmallLetters (cs : List Char) : List Char :=
  cs.flatMap smallForm

/-- **Whether a text mentions an ASCII phrase** given in small letters,
in whatever case the text is written. -/
def mentions (text : String) (phrase : String) : Bool :=
  occursIn phrase.toList (inSmallLetters text.toList)

/-- A phrase occurs exactly where the text can be split around it. -/
theorem occursIn_iff {needle cs : List Char} :
    occursIn needle cs = true ↔ ∃ a b, cs = a ++ needle ++ b := by
  induction cs with
  | nil =>
    simp only [occursIn, List.isEmpty_iff]
    constructor
    · rintro rfl
      exact ⟨[], [], rfl⟩
    · rintro ⟨a, b, h⟩
      have h' := congrArg List.length h
      simp only [List.length_nil, List.length_append] at h'
      exact List.eq_nil_of_length_eq_zero (by omega)
  | cons c cs ih =>
    simp only [occursIn, Bool.or_eq_true, List.isPrefixOf_iff_prefix]
    constructor
    · rintro (⟨b, hb⟩ | h)
      · exact ⟨[], b, hb.symm⟩
      · obtain ⟨a, b, hab⟩ := ih.mp h
        exact ⟨c :: a, b, by rw [hab]; rfl⟩
    · rintro ⟨a, b, h⟩
      cases a with
      | nil => exact Or.inl ⟨b, h.symm⟩
      | cons d a =>
        rw [List.cons_append, List.cons_append] at h
        exact Or.inr (ih.mpr ⟨a, b, (List.cons.inj h).2⟩)

end Colloquy.Text
