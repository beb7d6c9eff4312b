import Colloquy.Proofs.DictLiteral.Words
import Mathlib.Data.List.DropRight
import Mathlib.Data.List.Induction
import Mathlib.Data.List.TakeWhile

/-!
# Words, signs and strings of a text

Any text, a dict literal or not, is a sequence of lexemes. A word is a run of word characters
as long as it can be. A string begins with a quotation mark and ends with the next one of the
same kind that is not escaped, or with the text. Everything else is a sign. There is one such
sequence for each text and no other (`exists_lexes`, `Lexes.unique`).

Whether a character within a string is escaped can be seen from what is in front of it: it is
if the backslashes right before it are odd in number (`Escapes`). The respelling does not
count them. It only knows whether the character before was a backslash that was not escaped
itself, and that comes to the same (`respellFrom_inside`).

So the respelling respells the words that are one of the three, and no other lexeme
(`Lexes.respellWords_eq`). What comes of it has the lexemes that were there, with those words
in their small spelling (`Lexes.map_respell`).
-/

namespace Colloquy.DictLiteral

open Text (isWordChar)

variable {mark c : Char} {cs run inside rest : List Char}

/-! ## Where strings end -/

/-- **A part of a string escapes the character behind it** if it ends with an odd number of
backslashes. -/
def Escapes (inside : List Char) : Prop :=
  (inside.rtakeWhile (· = '\\')).length % 2 = 1

instance (inside : List Char) : Decidable (Escapes inside) :=
  inferInstanceAs (Decidable (_ = _))

/-- **A string is not over** as long as all quotation marks of its kind are escaped. -/
def StaysOpen (mark : Char) (inside : List Char) : Prop :=
  ∀ before after, inside = before ++ mark :: after → Escapes before

theorem escapes_concat_iff : Escapes (inside ++ [c]) ↔ c = '\\' ∧ ¬ Escapes inside := by
  unfold Escapes
  rw [List.rtakeWhile_concat]
  by_cases hc : c = '\\'
  · simp [hc]
    omega
  · simp [hc]

theorem staysOpen_nil (mark : Char) : StaysOpen mark [] := by
  intro before after h
  simp at h

theorem staysOpen_concat_iff :
    StaysOpen mark (inside ++ [c]) ↔ StaysOpen mark inside ∧ (c = mark → Escapes inside) := by
  constructor
  · intro h
    refine ⟨fun before after hinside => h before (after ++ [c]) (by simp [hinside]), ?_⟩
    rintro rfl
    exact h inside [] rfl
  · rintro ⟨h, hlast⟩ before after heq
    rcases List.eq_nil_or_concat after with rfl | ⟨after, d, rfl⟩
    · obtain ⟨rfl, hc⟩ := List.append_inj' heq rfl
      exact hlast (List.cons.inj hc).1
    · have hconcat : inside ++ [c] = (before ++ mark :: after) ++ [d] := by simpa using heq
      exact h before after (List.append_inj' hconcat rfl).1

/-- **A string ends at one place only**: what is open does not reach behind its end. -/
theorem StaysOpen.not_prefix {longer : List Char} (h : StaysOpen mark longer)
    (hend : ¬ Escapes inside) : ¬ inside ++ [mark] <+: longer := by
  rintro ⟨more, rfl⟩
  exact hend (h inside more (by simp))

/-- **A string is open to the end of the text, or it ends somewhere.** -/
theorem staysOpen_or_exists_end (mark : Char) (cs : List Char) :
    StaysOpen mark cs
      ∨ ∃ inside rest, cs = inside ++ mark :: rest ∧ StaysOpen mark inside ∧ ¬ Escapes inside := by
  induction cs using List.reverseRecOn with
  | nil => exact .inl (staysOpen_nil mark)
  | append_singleton cs c ih =>
    rcases ih with hopen | ⟨inside, rest, rfl, hinside, hend⟩
    · by_cases hc : c = mark ∧ ¬ Escapes cs
      · obtain ⟨rfl, hend⟩ := hc
        exact .inr ⟨cs, [], rfl, hopen, hend⟩
      · rw [not_and_not_right] at hc
        exact .inl (staysOpen_concat_iff.mpr ⟨hopen, hc⟩)
    · exact .inr ⟨inside, rest ++ [c], by simp, hinside, hend⟩

/-- **The respelling keeps a string as long as it is open**, and knows what it escapes. -/
theorem respellFrom_inside (h : StaysOpen mark inside) (rest : List Char) :
    respellFrom (.quoted mark false) (inside ++ rest)
      = inside ++ respellFrom (.quoted mark (decide (Escapes inside))) rest := by
  -- from the end of the string, since what is escaped depends on what is in front of it
  induction inside using List.reverseRecOn generalizing rest with
  | nil => rfl
  | append_singleton cs c ih =>
    obtain ⟨hopen, hc⟩ := staysOpen_concat_iff.mp h
    have hspot : (if decide (Escapes cs) = true then Spot.quoted mark false
        else if c = '\\' then .quoted mark true
        else if c = mark then .behind [] else .quoted mark false)
          = .quoted mark (decide (Escapes (cs ++ [c]))) := by
      by_cases hescapes : Escapes cs
      · simp [hescapes, escapes_concat_iff]
      · have hne : c ≠ mark := fun heq => hescapes (hc heq)
        by_cases hbackslash : c = '\\' <;> simp [hescapes, escapes_concat_iff, hbackslash, hne]
    rw [List.append_assoc, ih hopen, List.singleton_append, respellFrom, hspot, List.append_assoc,
      List.singleton_append]

/-! ## Lexemes -/

/-- **A part of a text** that is respelled or kept as a whole. -/
inductive Lexeme where
  /-- A word. -/
  | word (run : List Char)
  /-- A character that is a part of no word and no string. -/
  | sign (char : Char)
  /-- A string with its quotation marks. -/
  | string (chars : List Char)

/-- **The words that are respelled**, and how. -/
def spellings : List (List Char × List Char) :=
  [("True".toList, "true".toList), ("False".toList, "false".toList),
   ("None".toList, "null".toList)]

namespace Lexeme

/-- The text of a lexeme. -/
def chars : Lexeme → List Char
  | word run => run
  | sign c => [c]
  | string cs => cs

/-- **A lexeme with its word respelled**, if it is one of the three. -/
def respell : Lexeme → Lexeme
  | word run => word ((spellings.lookup run).getD run)
  | other => other

/-- **What a text begins with**, and what is behind it. -/
inductive Begins : List Char → Lexeme → List Char → Prop
  /-- A word, which does not go on behind its end. -/
  | word {run rest : List Char} (filled : run ≠ []) (chars : ∀ c ∈ run, isWordChar c = true)
      (longest : Apart rest) : Begins (run ++ rest) (.word run) rest
  /-- A sign. -/
  | sign {c : Char} {rest : List Char} (isSign : IsSign c) : Begins (c :: rest) (.sign c) rest
  /-- A string up to the first quotation mark of its kind that is not escaped. -/
  | closed {mark : Char} {inside rest : List Char} (isMark : isQuotationMark mark = true)
      (stays : StaysOpen mark inside) (unescaped : ¬ Escapes inside) :
      Begins (mark :: (inside ++ mark :: rest)) (.string (mark :: (inside ++ [mark]))) rest
  /-- A string up to the end of the text. -/
  | unclosed {mark : Char} {inside : List Char} (isMark : isQuotationMark mark = true)
      (stays : StaysOpen mark inside) : Begins (mark :: inside) (.string (mark :: inside)) []

end Lexeme

/-- **The lexemes of a text**, one behind the other. -/
inductive Lexes : List Char → List Lexeme → Prop
  /-- Nothing has none. -/
  | nil : Lexes [] []
  /-- One, and those behind it. -/
  | next {cs rest : List Char} {l : Lexeme} {ls : List Lexeme} (first : l.Begins cs rest)
      (behind : Lexes rest ls) : Lexes cs (l :: ls)

variable {l l' : Lexeme} {ls ls' : List Lexeme} {rest' : List Char}

/-! ### One way to split a text -/

namespace Lexeme

/-- **What a lexeme of each kind begins with.** -/
def Opens : Lexeme → Char → Prop
  | word _, c => isWordChar c = true
  | sign d, c => IsSign c ∧ d = c
  | string _, c => isQuotationMark c = true

namespace Begins

/-- **A text is made of its first lexeme and the rest.** -/
theorem chars_append (h : Begins cs l rest) : l.chars ++ rest = cs := by
  cases h with
  | word => rfl
  | sign => rfl
  | closed => simp [chars]
  | unclosed => simp [chars]

theorem chars_ne_nil (h : Begins cs l rest) : l.chars ≠ [] := by
  cases h with
  | word filled => exact filled
  | sign => exact List.cons_ne_nil _ _
  | closed => exact List.cons_ne_nil _ _
  | unclosed => exact List.cons_ne_nil _ _

theorem length_rest_lt (h : Begins cs l rest) : rest.length < cs.length := by
  have hpos := List.length_pos_of_ne_nil h.chars_ne_nil
  rw [← h.chars_append, List.length_append]
  omega

theorem opens (h : Begins (c :: cs) l rest) : l.Opens c := by
  generalize htext : c :: cs = text at h
  cases h with
  | word filled chars =>
    obtain ⟨d, run, rfl⟩ := List.exists_cons_of_ne_nil filled
    obtain ⟨rfl, -⟩ := List.cons.inj htext
    exact chars _ List.mem_cons_self
  | sign isSign =>
    obtain ⟨rfl, -⟩ := List.cons.inj htext
    exact ⟨isSign, rfl⟩
  | closed isMark =>
    obtain ⟨rfl, -⟩ := List.cons.inj htext
    exact isMark
  | unclosed isMark =>
    obtain ⟨rfl, -⟩ := List.cons.inj htext
    exact isMark

/-- A word goes on as far as it can. -/
theorem run_eq (h : Begins cs (.word run) rest) : run = cs.takeWhile isWordChar := by
  cases h with
  | word filled chars longest =>
    have hrest : rest.takeWhile isWordChar = [] := by
      cases rest with
      | nil => rfl
      | cons d rest => exact List.takeWhile_cons_of_neg (by simp [longest d rfl])
    rw [List.takeWhile_append_of_pos chars, hrest, List.append_nil]

/-- A string ends where it is first over, or with the text. -/
theorem string_cases {s : List Char} (h : Begins (c :: cs) (.string s) rest) :
    (∃ inside, s = c :: (inside ++ [c]) ∧ inside ++ [c] <+: cs ∧ StaysOpen c inside
        ∧ ¬ Escapes inside)
      ∨ s = c :: cs ∧ StaysOpen c cs := by
  generalize htext : c :: cs = text at h
  cases h with
  | @closed mark inside rest isMark stays unescaped =>
    obtain ⟨rfl, rfl⟩ := List.cons.inj htext
    exact .inl ⟨inside, rfl, ⟨rest, by simp⟩, stays, unescaped⟩
  | unclosed isMark stays =>
    obtain ⟨rfl, rfl⟩ := List.cons.inj htext
    exact .inr ⟨rfl, stays⟩

/-- **A text begins with one string at most.** -/
theorem string_unique {s s' : List Char} (h : Begins (c :: cs) (.string s) rest)
    (h' : Begins (c :: cs) (.string s') rest') : s = s' := by
  rcases h.string_cases with ⟨inside, rfl, hcs, hopen, hend⟩ | ⟨rfl, hopen⟩ <;>
    rcases h'.string_cases with ⟨inside', rfl, hcs', hopen', hend'⟩ | ⟨rfl, hopen'⟩
  · rcases List.prefix_or_prefix_of_prefix hcs hcs' with hle | hle
    · rcases List.prefix_concat_iff.mp hle with heq | hwithin
      · rw [heq]
      · exact absurd hwithin (hopen'.not_prefix hend)
    · rcases List.prefix_concat_iff.mp hle with heq | hwithin
      · rw [heq]
      · exact absurd hwithin (hopen.not_prefix hend')
  · exact absurd hcs (hopen'.not_prefix hend)
  · exact absurd hcs' (hopen.not_prefix hend')
  · rfl

/-- **A text begins with one lexeme only.** -/
theorem unique (h : Begins cs l rest) (h' : Begins cs l' rest') : l = l' ∧ rest = rest' := by
  suffices hl : l = l' by
    subst hl
    exact ⟨rfl, List.append_cancel_left (h.chars_append.trans h'.chars_append.symm)⟩
  cases cs with
  | nil => exact absurd h.length_rest_lt (Nat.not_lt_zero _)
  | cons c cs =>
    have hopens := h.opens
    have hopens' := h'.opens
    -- the first character tells which of the three it is
    cases l <;> cases l' <;> simp only [Opens, IsSign] at hopens hopens'
    case word.word => rw [h.run_eq, h'.run_eq]
    case sign.sign => rw [hopens.2, hopens'.2]
    case string.string => rw [h.string_unique h']
    case word.sign => simp [hopens] at hopens'
    case sign.word => simp [hopens'] at hopens
    case word.string => simp [(mark_ne hopens').2] at hopens
    case string.word => simp [(mark_ne hopens).2] at hopens'
    case sign.string => simp [hopens'] at hopens
    case string.sign => simp [hopens] at hopens'

end Begins

/-- **Something stands at the beginning of every text.** -/
theorem exists_begins (c : Char) (cs : List Char) : ∃ l rest, Begins (c :: cs) l rest := by
  cases hword : isWordChar c with
  | true =>
    refine ⟨.word (c :: cs.takeWhile isWordChar), cs.dropWhile isWordChar, ?_⟩
    have hchars : ∀ d ∈ c :: cs.takeWhile isWordChar, isWordChar d = true :=
      List.forall_mem_cons.mpr ⟨hword, fun d hd => List.mem_takeWhile_imp hd⟩
    have hrest : Apart (cs.dropWhile isWordChar) := by
      intro d hd
      have hstop := List.head?_dropWhile_not isWordChar cs
      rw [Option.mem_def.mp hd] at hstop
      simpa using hstop
    have hbegins := Begins.word (List.cons_ne_nil _ _) hchars hrest
    rwa [List.cons_append, List.takeWhile_append_dropWhile] at hbegins
  | false =>
    cases hmark : isQuotationMark c with
    | false => exact ⟨.sign c, cs, .sign ⟨hword, hmark⟩⟩
    | true =>
      rcases staysOpen_or_exists_end c cs with hopen | ⟨inside, rest, rfl, hopen, hend⟩
      · exact ⟨_, [], .unclosed hmark hopen⟩
      · exact ⟨_, rest, .closed hmark hopen hend⟩

end Lexeme

open Lexeme (Begins)

/-- **Every text has lexemes.** -/
theorem exists_lexes (cs : List Char) : ∃ ls, Lexes cs ls := by
  induction hn : cs.length using Nat.strongRecOn generalizing cs with
  | ind n ih =>
    cases cs with
    | nil => exact ⟨[], .nil⟩
    | cons c cs =>
      obtain ⟨l, rest, hfirst⟩ := Lexeme.exists_begins c cs
      obtain ⟨ls, hls⟩ := ih rest.length (hn ▸ hfirst.length_rest_lt) rest rfl
      exact ⟨l :: ls, .next hfirst hls⟩

namespace Lexes

/-- **A text has one sequence of lexemes only.** -/
theorem unique (h : Lexes cs ls) (h' : Lexes cs ls') : ls = ls' := by
  induction h generalizing ls' with
  | nil =>
    cases h' with
    | nil => rfl
    | next first => exact absurd first.length_rest_lt (Nat.not_lt_zero _)
  | next first behind ih =>
    cases h' with
    | nil => exact absurd first.length_rest_lt (Nat.not_lt_zero _)
    | next first' behind' =>
      obtain ⟨rfl, rfl⟩ := first.unique first'
      rw [ih behind']

/-- **A text is made of its lexemes.** -/
theorem flatMap_chars (h : Lexes cs ls) : ls.flatMap Lexeme.chars = cs := by
  induction h with
  | nil => rfl
  | next first behind ih => rw [List.flatMap_cons, ih, first.chars_append]

end Lexes

/-! ## Respelling -/

/-- The small spelling of a word, by the table. -/
theorem respell_eq (run : List Char) : respell run = (spellings.lookup run).getD run := by
  unfold respell
  split_ifs with htrue hfalse hnone
  · rw [htrue]
    rfl
  · rw [hfalse]
    rfl
  · rw [hnone]
    rfl
  · have hlookup : spellings.lookup run = none := by simp [spellings, htrue, hfalse, hnone]
    rw [hlookup]
    rfl

/-- A word is kept, or one of the three small spellings takes its place. -/
theorem lookup_cases (run : List Char) :
    spellings.lookup run = none ∨ ∃ e ∈ spellings, spellings.lookup run = some e.2 := by
  cases hlookup : spellings.lookup run with
  | none => exact .inl rfl
  | some small =>
    obtain ⟨before, after, hspellings, -⟩ := List.lookup_eq_some_iff.mp hlookup
    exact .inr ⟨(run, small), by simp [hspellings], rfl⟩

/-- A small spelling is a word, too. -/
theorem isWordChar_of_mem_spellings {e : List Char × List Char} (he : e ∈ spellings) :
    e.2 ≠ [] ∧ ∀ c ∈ e.2, isWordChar c = true := by
  simp only [spellings, List.mem_cons, List.not_mem_nil, or_false] at he
  rcases he with rfl | rfl | rfl <;> exact ⟨by decide, List.all_eq_true.mp (by decide)⟩

namespace Lexeme

/-- **A lexeme that has been respelled is not respelled again.** -/
theorem respell_respell (l : Lexeme) : l.respell.respell = l.respell := by
  cases l with
  | word run =>
    have hsmall : ∀ e ∈ spellings, spellings.lookup e.2 = none := by decide
    rcases lookup_cases run with hlookup | ⟨e, he, hlookup⟩
    · simp [respell, hlookup]
    · simp [respell, hlookup, hsmall e he]
  | sign => rfl
  | string => rfl

namespace Begins

/-- **The respelling respells the first lexeme**, and goes on behind it. -/
theorem respellFrom_eq (h : Begins cs l rest) :
    respellFrom (.behind []) cs = l.respell.chars ++ respellFrom (.behind []) rest := by
  cases h with
  | word filled chars longest =>
    rw [respelledAs_word chars _ longest, respell_eq]
    rfl
  | sign isSign => exact respellFrom_sign isSign rest
  | @closed mark inside rest isMark stays unescaped =>
    rw [respellFrom_mark isMark, respellFrom_inside stays, decide_eq_false unescaped,
      respellFrom_end isMark]
    simp [respell, Lexeme.chars]
  | @unclosed mark inside isMark stays =>
    have hinside := respellFrom_inside stays []
    rw [List.append_nil] at hinside
    rw [respellFrom_mark isMark, hinside]
    rfl

/-- A lexeme that has been respelled is the first one of what comes of the text. -/
theorem respell (h : Begins cs l rest) (hapart : Apart rest → Apart rest')
    (hend : rest = [] → rest' = []) : Begins (l.respell.chars ++ rest') l.respell rest' := by
  cases h with
  | @word run rest filled chars longest =>
    rcases lookup_cases run with hlookup | ⟨e, he, hlookup⟩
    · simp only [Lexeme.respell, hlookup, Option.getD_none]
      exact .word filled chars (hapart longest)
    · simp only [Lexeme.respell, hlookup, Option.getD_some]
      obtain ⟨hfilled, hchars⟩ := isWordChar_of_mem_spellings he
      exact .word hfilled hchars (hapart longest)
  | sign isSign => exact .sign isSign
  | @closed mark inside rest isMark stays unescaped =>
    have hbegins : Begins (mark :: (inside ++ mark :: rest')) (.string (mark :: (inside ++ [mark])))
        rest' := .closed isMark stays unescaped
    simpa [Lexeme.respell, Lexeme.chars] using hbegins
  | unclosed isMark stays =>
    rw [hend rfl, List.append_nil]
    exact .unclosed isMark stays

/-- Where no word went on none goes on. -/
theorem apart_respell (h : Begins cs l rest) (hapart : Apart cs) (rest' : List Char) :
    Apart (l.respell.chars ++ rest') := by
  cases h with
  | word filled chars =>
    obtain ⟨c, run, rfl⟩ := List.exists_cons_of_ne_nil filled
    exact absurd (chars c List.mem_cons_self) (by simp [hapart c rfl])
  | sign isSign => exact apart_cons isSign.1 _
  | closed isMark => exact apart_cons ((mark_ne isMark).2) _
  | unclosed isMark => exact apart_cons ((mark_ne isMark).2) _

end Begins

end Lexeme

namespace Lexes

/-- **The respelling respells the lexemes** one by one. -/
theorem respellWords_eq (h : Lexes cs ls) :
    respellWords cs = (ls.map Lexeme.respell).flatMap Lexeme.chars := by
  unfold respellWords
  induction h with
  | nil => rfl
  | next first behind ih => rw [first.respellFrom_eq, ih, List.map_cons, List.flatMap_cons]

/-- What comes of a text has its lexemes respelled, and begins with a word only if the text
does. -/
theorem respell_and_apart (h : Lexes cs ls) :
    Lexes ((ls.map Lexeme.respell).flatMap Lexeme.chars) (ls.map Lexeme.respell)
      ∧ (Apart cs → Apart ((ls.map Lexeme.respell).flatMap Lexeme.chars)) := by
  induction h with
  | nil => exact ⟨.nil, id⟩
  | next first behind ih =>
    obtain ⟨hlexes, hapart⟩ := ih
    have hend {rest : List Char} {ls : List Lexeme} (h : Lexes rest ls) (hrest : rest = []) :
        (ls.map Lexeme.respell).flatMap Lexeme.chars = [] := by
      subst hrest
      rw [h.unique .nil]
      rfl
    rw [List.map_cons, List.flatMap_cons]
    exact ⟨.next (first.respell hapart (hend behind)) hlexes, fun h => first.apart_respell h _⟩

/-- **What comes of a text has the lexemes of the text, respelled.** -/
theorem map_respell (h : Lexes cs ls) : Lexes (respellWords cs) (ls.map Lexeme.respell) := by
  rw [h.respellWords_eq]
  exact h.respell_and_apart.1

end Lexes

/-- **What has been respelled is not respelled again.** -/
theorem respellWords_respellWords (cs : List Char) :
    respellWords (respellWords cs) = respellWords cs := by
  obtain ⟨ls, hls⟩ := exists_lexes cs
  have htwice : Lexeme.respell ∘ Lexeme.respell = Lexeme.respell := funext Lexeme.respell_respell
  rw [hls.map_respell.respellWords_eq, List.map_map, htwice, hls.respellWords_eq]

end Colloquy.DictLiteral
