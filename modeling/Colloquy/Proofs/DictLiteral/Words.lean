import Colloquy.DictLiteral.Reader
import Colloquy.DictLiteral.Words

/-!
# What respelling leaves alone

The respelling of a dict literal goes through its text once and keeps track of quotation
marks and of words. What it makes of a part of the text is independent of what comes before
and after, if no word goes on over the border (`RespelledAs`): so the three words are
respelled, numbers and the marks between values are kept, and what stands in quotes is kept
whatever it is.

For the last of these the respelling has to find the end of a string just where the reader
does. Each character of a string is written as itself, or behind a backslash as something in
which there is neither a quotation mark nor another backslash (`Writes`). Both the respelling
and the reader (`Writes.chars_append`) go through such a string character by character and
are at its end at the same time.
-/

namespace Colloquy.DictLiteral

open Text (isWordChar)

/-- **What may be written for a character** of a string between two quotation marks: the
character, or something behind a backslash that is read as the character. -/
inductive Writes (mark c : Char) : List Char → Prop
  /-- The character itself, unless it would be taken for something else. -/
  | itself (notMark : c ≠ mark) (notEscape : c ≠ '\\') (inLine : c ≠ '\n' ∧ c ≠ '\r') :
      Writes mark c [c]
  /-- An escape. -/
  | escape {d : Char} {ds : List Char} (inert : ∀ e ∈ ds, e ≠ mark ∧ e ≠ '\\')
      (read : ∀ rest, escape (d :: (ds ++ rest)) = some ([c], rest)) :
      Writes mark c ('\\' :: d :: ds)

/-- **A way to write strings** between two quotation marks. -/
structure Quotes (mark : Char) (write : Char → List Char) : Prop where
  /-- It is a quotation mark. -/
  isMark : isQuotationMark mark = true
  /-- Each character is written in a way it may be. -/
  writes : ∀ c, Writes mark c (write c)

/-- A string between its quotation marks. -/
def quoted (mark : Char) (write : Char → List Char) (s : String) : List Char :=
  mark :: (s.toList.flatMap write ++ [mark])

/-- **No word goes on** at the start of a text. -/
def Apart (rest : List Char) : Prop :=
  ∀ c ∈ rest.head?, isWordChar c = false

/-- **A text is respelled as another one**, whatever follows it, if its last word does not go
on there. -/
def RespelledAs (cs ds : List Char) : Prop :=
  ∀ rest, Apart rest → respellFrom (.behind []) (cs ++ rest) = ds ++ respellFrom (.behind []) rest

/-- **A mark between values** is a part of no word and opens no string. -/
def IsSign (c : Char) : Prop :=
  isWordChar c = false ∧ isQuotationMark c = false

instance (c : Char) : Decidable (IsSign c) :=
  inferInstanceAs (Decidable (_ ∧ _))

variable {mark c : Char} {write : Char → List Char} {cs ds cs' ds' rest word : List Char}

/-! ## Single characters -/

theorem isQuotationMark_iff : isQuotationMark c = true ↔ c = '"' ∨ c = '\'' := by
  simp [isQuotationMark]

/-- A quotation mark is no backslash and a part of no word. -/
theorem mark_ne (h : isQuotationMark mark = true) : mark ≠ '\\' ∧ isWordChar mark = false := by
  rcases isQuotationMark_iff.mp h with rfl | rfl <;> decide

/-- A sign is kept. -/
theorem respellFrom_sign (h : IsSign c) (cs : List Char) :
    respellFrom (.behind []) (c :: cs) = c :: respellFrom (.behind []) cs := by
  rw [respellFrom, if_neg (by simp [h.1]), if_neg (by simp [h.2])]
  rfl

/-- A quotation mark is kept, and a string begins. -/
theorem respellFrom_mark (h : isQuotationMark mark = true) (cs : List Char) :
    respellFrom (.behind []) (mark :: cs) = mark :: respellFrom (.quoted mark false) cs := by
  rw [respellFrom, if_neg (by simp [(mark_ne h).2]), if_pos h]
  rfl

/-- In a string, a character is kept that neither ends it nor escapes another one. -/
theorem respellFrom_within (hmark : c ≠ mark) (hbackslash : c ≠ '\\') (cs : List Char) :
    respellFrom (.quoted mark false) (c :: cs) = c :: respellFrom (.quoted mark false) cs := by
  rw [respellFrom, if_neg Bool.false_ne_true, if_neg hbackslash, if_neg hmark]

/-- So is the quotation mark that ends it. -/
theorem respellFrom_end (h : isQuotationMark mark = true) (cs : List Char) :
    respellFrom (.quoted mark false) (mark :: cs) = mark :: respellFrom (.behind []) cs := by
  rw [respellFrom, if_neg Bool.false_ne_true, if_neg (mark_ne h).1, if_pos rfl]

/-! ## Strings -/

/-- Something is written for each character. -/
theorem Writes.length_pos (h : Writes mark c ds) : 0 < ds.length := by
  cases h <;> exact Nat.succ_pos _

/-- **A character is read from what is written for it.** -/
theorem Writes.chars_append (h : Writes mark c ds) (hmark : mark ≠ '\\') (fuel : Nat)
    (rest : List Char) :
    chars (fuel + 1) mark (ds ++ rest) = (chars fuel mark rest).map fun r => (c :: r.1, r.2) := by
  cases h with
  | itself notMark notEscape inLine =>
    rw [List.singleton_append, chars, if_neg notMark, if_neg notEscape, if_neg (by simp [inLine])]
    cases chars fuel mark rest <;> rfl
  | @escape d ds inert read =>
    rw [List.cons_append, List.cons_append, chars, if_neg hmark.symm, if_pos rfl, read]
    show (chars fuel mark rest).bind _ = _
    cases chars fuel mark rest <;> rfl

/-- **The respelling goes through what is written for a character.** -/
theorem Writes.respellFrom_append (h : Writes mark c ds) (rest : List Char) :
    respellFrom (.quoted mark false) (ds ++ rest)
      = ds ++ respellFrom (.quoted mark false) rest := by
  cases h with
  | itself notMark notEscape =>
    rw [List.singleton_append, respellFrom_within notMark notEscape]
    rfl
  | @escape d ds inert read =>
    have hinert : respellFrom (.quoted mark false) (ds ++ rest)
        = ds ++ respellFrom (.quoted mark false) rest := by
      clear read
      induction ds with
      | nil => rfl
      | cons e ds ih =>
        obtain ⟨hmark, hbackslash⟩ := inert e List.mem_cons_self
        rw [List.cons_append, respellFrom_within hmark hbackslash,
          ih fun e' he' => inert e' (List.mem_cons_of_mem e he')]
        rfl
    rw [List.cons_append, List.cons_append, respellFrom, if_neg Bool.false_ne_true, if_pos rfl,
      respellFrom, if_pos rfl, hinert]
    rfl

namespace Quotes

/-- A string takes one character at least for each of its own. -/
theorem length_le_flatMap (h : Quotes mark write) (cs : List Char) :
    cs.length ≤ (cs.flatMap write).length := by
  induction cs with
  | nil => exact Nat.le_refl 0
  | cons c cs ih =>
    have hpos := (h.writes c).length_pos
    rw [List.flatMap_cons, List.length_append, List.length_cons]
    omega

theorem chars_flatMap (h : Quotes mark write) {fuel : Nat} (hfuel : cs.length < fuel) :
    chars fuel mark (cs.flatMap write ++ mark :: rest) = some (cs, rest) := by
  induction cs generalizing fuel with
  | nil =>
    obtain ⟨fuel, rfl⟩ := Nat.exists_eq_succ_of_ne_zero (by omega : fuel ≠ 0)
    exact if_pos rfl
  | cons c cs ih =>
    obtain ⟨fuel, rfl⟩ := Nat.exists_eq_succ_of_ne_zero (by omega : fuel ≠ 0)
    rw [List.flatMap_cons, List.append_assoc, (h.writes c).chars_append (mark_ne h.isMark).1,
      ih (Nat.lt_of_succ_lt_succ hfuel)]
    rfl

/-- **A string is read back**, behind its quotation mark. -/
theorem string_flatMap (h : Quotes mark write) (s : String) (rest : List Char) :
    string mark (s.toList.flatMap write ++ mark :: rest) = some (s, rest) := by
  have hfuel : s.toList.length < (s.toList.flatMap write ++ mark :: rest).length + 1 := by
    have hlength := h.length_le_flatMap s.toList
    rw [List.length_append]
    omega
  rw [string, h.chars_flatMap hfuel]
  show some (String.ofList s.toList, rest) = _
  rw [String.ofList_toList]

/-- The text of a string, as a reader sees it. -/
theorem quoted_append (mark : Char) (write : Char → List Char) (s : String) (cs : List Char) :
    quoted mark write s ++ cs = mark :: (s.toList.flatMap write ++ mark :: cs) := by
  simp [quoted]

/-- **So is a name in quotes.** -/
theorem name_quoted (h : Quotes mark write) (s : String) (rest : List Char) :
    name (quoted mark write s ++ rest) = some (s, rest) := by
  rw [quoted_append, ← h.string_flatMap s rest]
  rcases isQuotationMark_iff.mp h.isMark with rfl | rfl <;> rfl

/-- **What stands in quotes is not respelled.** -/
theorem respelledAs (h : Quotes mark write) (s : String) :
    RespelledAs (quoted mark write s) (quoted mark write s) := by
  intro rest hrest
  have hchars (cs : List Char) :
      respellFrom (.quoted mark false) (cs.flatMap write ++ mark :: rest)
        = cs.flatMap write ++ mark :: respellFrom (.behind []) rest := by
    induction cs with
    | nil =>
      rw [List.flatMap_nil, List.nil_append, respellFrom_end h.isMark]
      rfl
    | cons c cs ih =>
      rw [List.flatMap_cons, List.append_assoc, (h.writes c).respellFrom_append, ih,
        List.append_assoc]
  rw [quoted_append, respellFrom_mark h.isMark, hchars, quoted_append]

end Quotes

/-! ## Words and what is between them -/

theorem apart_nil : Apart [] := by
  intro c hc
  cases hc

theorem apart_cons (h : isWordChar c = false) (cs : List Char) : Apart (c :: cs) := by
  intro d hd
  cases hd
  exact h

theorem respelledAs_nil : RespelledAs [] [] := fun _ _ => rfl

/-- A sign is kept. -/
theorem RespelledAs.cons (h : RespelledAs cs ds) (hc : IsSign c) :
    RespelledAs (c :: cs) (c :: ds) := by
  intro rest hrest
  rw [List.cons_append, respellFrom_sign hc, h rest hrest]
  rfl

/-- **Parts are respelled one by one**, if no word goes on over the border. -/
theorem RespelledAs.append (h : RespelledAs cs ds) (h' : RespelledAs cs' ds')
    (hapart : ∀ rest, Apart rest → Apart (cs' ++ rest)) :
    RespelledAs (cs ++ cs') (ds ++ ds') := by
  intro rest hrest
  rw [List.append_assoc, h _ (hapart rest hrest), h' rest hrest, List.append_assoc]

/-- So are parts with a sign between them. -/
theorem RespelledAs.append_cons (h : RespelledAs cs ds) (hc : IsSign c)
    (h' : RespelledAs cs' ds') : RespelledAs (cs ++ c :: cs') (ds ++ c :: ds') :=
  h.append (h'.cons hc) fun _ _ => apart_cons hc.1 _

/-- A word is respelled when it ends. -/
theorem respellFrom_behind (word : List Char) (h : Apart rest) :
    respellFrom (.behind word) rest = respell word ++ respellFrom (.behind []) rest := by
  cases rest with
  | nil => exact (List.append_nil _).symm
  | cons c rest =>
    have hc : ¬ isWordChar c = true := Bool.eq_false_iff.mp (h c rfl)
    rw [respellFrom, respellFrom, if_neg hc, if_neg hc]
    rfl

/-- **A word is respelled.** -/
theorem respelledAs_word (h : ∀ c ∈ cs, isWordChar c = true) : RespelledAs cs (respell cs) := by
  intro rest hrest
  have hbehind (word : List Char) : respellFrom (.behind word) (cs ++ rest)
      = respell (word ++ cs) ++ respellFrom (.behind []) rest := by
    induction cs generalizing word with
    | nil =>
      rw [List.nil_append, List.append_nil]
      exact respellFrom_behind word hrest
    | cons c cs ih =>
      rw [List.cons_append, respellFrom, if_pos (h c List.mem_cons_self),
        ih fun d hd => h d (List.mem_cons_of_mem c hd), List.append_assoc, List.singleton_append]
  exact hbehind []

/-- A word that is not one of the three is kept. -/
theorem respelledAs_self (h : ∀ c ∈ cs, isWordChar c = true) (hkept : respell cs = cs) :
    RespelledAs cs cs := by
  have hword := respelledAs_word h
  rwa [hkept] at hword

/-- What a number is made of spells none of the three words. -/
theorem respell_of_inRun (h : ∀ c ∈ word, inRun c = true) : respell word = word := by
  have hne {c : Char} {cs : List Char} (hc : inRun c = false) : word ≠ c :: cs := by
    rintro rfl
    rw [h c List.mem_cons_self] at hc
    cases hc
  rw [respell, if_neg (hne (by decide)), if_neg (hne (by decide)), if_neg (hne (by decide))]

/-- **A number is kept**, though its signs and its point stand between words. -/
theorem respelledAs_of_inRun (h : ∀ c ∈ cs, inRun c = true) : RespelledAs cs cs := by
  intro rest hrest
  have hbehind (word : List Char) (hword : ∀ c ∈ word, inRun c = true) :
      respellFrom (.behind word) (cs ++ rest)
        = word ++ cs ++ respellFrom (.behind []) rest := by
    induction cs generalizing word with
    | nil =>
      rw [List.nil_append, List.append_nil, respellFrom_behind word hrest, respell_of_inRun hword]
    | cons c cs ih =>
      have hc := h c List.mem_cons_self
      have ih := ih fun d hd => h d (List.mem_cons_of_mem c hd)
      have hquote : ¬ isQuotationMark c = true := by
        intro hmark
        rcases isQuotationMark_iff.mp hmark with rfl | rfl <;> exact absurd hc (by decide)
      rw [List.cons_append, respellFrom]
      by_cases hgoesOn : isWordChar c = true
      · rw [if_pos hgoesOn, ih (word ++ [c]), List.append_assoc word, List.singleton_append]
        intro d hd
        rcases List.mem_append.mp hd with hd | hd
        · exact hword d hd
        · exact List.mem_singleton.mp hd ▸ hc
      · rw [if_neg hgoesOn, if_neg hquote, ih [] nofun, respell_of_inRun hword, List.nil_append,
          List.append_assoc, List.cons_append]
  exact hbehind [] nofun

/-! ## Whole texts -/

/-- **A text is respelled as another one**, if nothing follows. -/
theorem RespelledAs.respellWords_eq (h : RespelledAs cs ds) : respellWords cs = ds := by
  have hwhole : respellFrom (.behind []) (cs ++ []) = ds ++ [] := h [] apart_nil
  rwa [List.append_nil, List.append_nil] at hwhole

end Colloquy.DictLiteral
