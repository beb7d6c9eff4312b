import Colloquy.Proofs.DictLiteral.Lexemes
import Colloquy.Proofs.Json.Ends

/-!
# JSON text is not respelled

Whatever the strict reader accepts is kept by the respelling, wherever it comes from and
whatever blanks and escapes it holds. The two go through the text in their own ways, but what
one of the reader's functions takes off the text the respelling keeps (`Copies`), on the way
from a spot in front of it to a spot behind it. Within a string both look for the quotation
mark that ends it, and what the reader takes as an escape has no mark in it that could be
mistaken for that one. Outside of strings the reader takes signs, blanks, the three words as
they are, and numbers, whose characters spell none of the words.

A number or a word is over for the respelling only when something else follows. In a text that
is accepted that is always so: behind a value there is a blank, a comma, a bracket, a brace or
nothing (`CopiesValues`).
-/

namespace Colloquy.DictLiteral

open Json.Reader (exists_of_bind_eq_ok skipSpace readString readColon readValue readItems readField
  readFields StringRest stringRest_of_readString ScalarRead valueRead itemsRead fieldRead
  fieldsRead)

/-- **The respelling keeps what is taken off a text**, and comes from one spot to another. -/
def Copies (spot : Spot) (cs : List Char) (spot' : Spot) (rest : List Char) : Prop :=
  ∃ used, cs = used ++ rest ∧ respellFrom spot cs = used ++ respellFrom spot' rest

/-- Outside of quotes it comes from one end of a word to another. -/
abbrev CopiesOutside (cs rest : List Char) : Prop :=
  Copies (.behind []) cs (.behind []) rest

variable {spot spot' spot'' : Spot} {cs mid rest : List Char} {c : Char}

namespace Copies

theorem refl (spot : Spot) (cs : List Char) : Copies spot cs spot cs :=
  ⟨[], rfl, rfl⟩

theorem trans (h : Copies spot cs spot' mid) (h' : Copies spot' mid spot'' rest) :
    Copies spot cs spot'' rest := by
  obtain ⟨used, rfl, hused⟩ := h
  obtain ⟨more, rfl, hmore⟩ := h'
  exact ⟨used ++ more, by rw [List.append_assoc], by rw [hused, hmore, List.append_assoc]⟩

/-- A single character is kept. -/
theorem of_cons (h : respellFrom spot (c :: cs) = c :: respellFrom spot' cs) :
    Copies spot (c :: cs) spot' cs :=
  ⟨[c], rfl, h⟩

/-- **A text that is kept all through is copied.** -/
theorem eq_of_nil (h : Copies spot cs spot' []) (hspot' : respellFrom spot' [] = []) :
    respellFrom spot cs = cs := by
  obtain ⟨used, rfl, hused⟩ := h
  rw [hused, hspot']

end Copies

/-! ## Strings -/

/-- **A string is copied** up to its end. -/
theorem copies_of_stringRest (h : StringRest cs rest) :
    Copies (.quoted '"' false) cs (.behind []) rest := by
  induction h with
  | close => exact .of_cons (respellFrom_end rfl _)
  | plain notMark notBackslash _ ih =>
    exact (Copies.of_cons (respellFrom_within notMark notBackslash _)).trans ih
  | @escaped c cs rest _ ih =>
    have hbackslash : Copies (.quoted '"' false) ('\\' :: c :: cs) (.quoted '"' true) (c :: cs) :=
      .of_cons rfl
    have hescaped : Copies (.quoted '"' true) (c :: cs) (.quoted '"' false) cs := .of_cons rfl
    exact hbackslash.trans (hescaped.trans ih)

/-- So it is with its quotation marks. -/
theorem copies_of_readString {s : String} (h : readString cs = .ok (s, rest)) :
    CopiesOutside ('"' :: cs) rest :=
  (Copies.of_cons (respellFrom_mark rfl cs)).trans
    (copies_of_stringRest (stringRest_of_readString h))

/-! ## Values -/

/-- Blanks are signs. -/
theorem isSign_of_isSpace (h : Json.Reader.isSpace c = true) : IsSign c := by
  simp only [Json.Reader.isSpace, Bool.or_eq_true, decide_eq_true_eq] at h
  rcases h with ((rfl | rfl) | rfl) | rfl <;> decide

/-- Blanks are copied. -/
theorem copies_of_skipSpace (h : skipSpace cs = rest) : CopiesOutside cs rest := by
  subst h
  induction cs with
  | nil => exact .refl _ _
  | cons c cs ih =>
    unfold skipSpace at ih ⊢
    by_cases hspace : Json.Reader.isSpace c = true
    · rw [List.dropWhile_cons_of_pos hspace]
      exact (Copies.of_cons (respellFrom_sign (isSign_of_isSpace hspace) cs)).trans ih
    · rw [List.dropWhile_cons_of_neg hspace]
      exact .refl _ _

/-- So is a sign behind them. -/
theorem copies_of_skipSpace_cons (h : skipSpace cs = c :: rest) (hc : IsSign c) :
    CopiesOutside cs rest :=
  (copies_of_skipSpace h).trans (.of_cons (respellFrom_sign hc rest))

/-- **No word goes on** in front of blanks and a sign. -/
theorem apart_of_skipSpace_cons (h : skipSpace cs = c :: rest) (hc : IsSign c) : Apart cs := by
  cases cs with
  | nil => exact apart_nil
  | cons d cs =>
    by_cases hspace : Json.Reader.isSpace d = true
    · exact apart_cons (isSign_of_isSpace hspace).1 cs
    · rw [skipSpace, List.dropWhile_cons_of_neg hspace] at h
      obtain ⟨rfl, -⟩ := List.cons.inj h
      exact apart_cons hc.1 cs

variable {v : Json} {fuel depth : Nat}

/-- What is respelled as itself is copied, if no word goes on behind it. -/
theorem RespelledAs.copies {used : List Char} (h : RespelledAs used used) (hrest : Apart rest) :
    CopiesOutside (used ++ rest) rest :=
  ⟨used, rfl, h rest hrest⟩

/-- The words of JSON are none of the three, and neither is what numbers are made of. -/
theorem copies_of_scalarRead (h : ScalarRead cs v rest) (hrest : Apart rest) :
    CopiesOutside cs rest := by
  cases h with
  | null => exact (respelledAs_self (List.all_eq_true.mp (by decide)) rfl).copies hrest
  | yes => exact (respelledAs_self (List.all_eq_true.mp (by decide)) rfl).copies hrest
  | no => exact (respelledAs_self (List.all_eq_true.mp (by decide)) rfl).copies hrest
  | str read => exact copies_of_readString read
  | num read =>
    obtain ⟨used, rfl, hrun⟩ := (Json.Numeral.takesNumber_of_read read).takesRun
    exact (respelledAs_of_inRun hrun).copies hrest

theorem copies_of_readColon (h : readColon cs = .ok rest) : CopiesOutside cs rest := by
  unfold readColon at h
  split at h
  · cases h
  · next c behind hskip =>
    split_ifs at h with hc
    cases h
    subst hc
    exact copies_of_skipSpace_cons hskip (by decide)

/-- **What the readers of values take is copied**, with so much fuel. Behind the items of a
list and the fields of an object a sign is the last thing taken, and in front of them one is
the first; a value needs that something else follows. -/
structure CopiesValues (fuel : Nat) : Prop where
  /-- A value. -/
  value : ∀ {depth cs v rest}, readValue fuel depth cs = .ok (v, rest) → Apart rest →
    CopiesOutside cs rest
  /-- The further items of a list. -/
  items : ∀ {depth cs vs rest}, readItems fuel depth cs = .ok (vs, rest) →
    CopiesOutside cs rest ∧ Apart cs
  /-- A field, with its quotation mark. -/
  field : ∀ {depth cs e rest}, readField fuel depth cs = .ok (e, rest) → Apart rest →
    CopiesOutside ('"' :: cs) rest
  /-- The further fields of an object. -/
  fields : ∀ {depth cs es rest}, readFields fuel depth cs = .ok (es, rest) →
    CopiesOutside cs rest ∧ Apart cs

namespace CopiesValues

theorem readValue (h : CopiesValues fuel) (hrest : Apart rest)
    (hread : readValue (fuel + 1) depth cs = .ok (v, rest)) : CopiesOutside cs rest := by
  cases valueRead hread with
  | emptyList opens closes =>
    exact (copies_of_skipSpace_cons opens (by decide)).trans
      (copies_of_skipSpace_cons closes (by decide))
  | list opens blanks item further =>
    obtain ⟨hitems, hapart⟩ := h.items further
    exact (copies_of_skipSpace_cons opens (by decide)).trans
      ((copies_of_skipSpace blanks).trans ((h.value item hapart).trans hitems))
  | emptyObject opens closes =>
    exact (copies_of_skipSpace_cons opens (by decide)).trans
      (copies_of_skipSpace_cons closes (by decide))
  | object opens blanks field further =>
    obtain ⟨hfields, hapart⟩ := h.fields further
    exact (copies_of_skipSpace_cons opens (by decide)).trans
      ((copies_of_skipSpace blanks).trans ((h.field field hapart).trans hfields))
  | scalar blanks read =>
    exact (copies_of_skipSpace blanks).trans (copies_of_scalarRead read hrest)

theorem readItems (h : CopiesValues fuel) {vs : List Json}
    (hread : readItems (fuel + 1) depth cs = .ok (vs, rest)) :
    CopiesOutside cs rest ∧ Apart cs := by
  cases itemsRead hread with
  | close closes =>
    exact ⟨copies_of_skipSpace_cons closes (by decide), apart_of_skipSpace_cons closes (by decide)⟩
  | item comma blanks item further =>
    obtain ⟨hitems, hapart⟩ := h.items further
    refine ⟨?_, apart_of_skipSpace_cons comma (by decide)⟩
    exact (copies_of_skipSpace_cons comma (by decide)).trans
      ((copies_of_skipSpace blanks).trans ((h.value item hapart).trans hitems))

theorem readField (h : CopiesValues fuel) {e : String × Json} (hrest : Apart rest)
    (hread : readField (fuel + 1) depth cs = .ok (e, rest)) : CopiesOutside ('"' :: cs) rest := by
  obtain ⟨_, _, hname, hcolon, hvalue⟩ := fieldRead hread
  exact (copies_of_readString hname).trans
    ((copies_of_readColon hcolon).trans (h.value hvalue hrest))

theorem readFields (h : CopiesValues fuel) {es : List (String × Json)}
    (hread : readFields (fuel + 1) depth cs = .ok (es, rest)) :
    CopiesOutside cs rest ∧ Apart cs := by
  cases fieldsRead hread with
  | close closes =>
    exact ⟨copies_of_skipSpace_cons closes (by decide), apart_of_skipSpace_cons closes (by decide)⟩
  | field comma blanks field further =>
    obtain ⟨hfields, hapart⟩ := h.fields further
    refine ⟨?_, apart_of_skipSpace_cons comma (by decide)⟩
    exact (copies_of_skipSpace_cons comma (by decide)).trans
      ((copies_of_skipSpace blanks).trans ((h.field field hapart).trans hfields))

end CopiesValues

/-- **What the readers of values take is copied**, with any fuel. -/
theorem copiesValues (fuel : Nat) : CopiesValues fuel := by
  induction fuel with
  | zero =>
    exact {
      value := fun h => by simp [readValue] at h
      items := fun h => by simp [readItems] at h
      field := fun h => by simp [readField] at h
      fields := fun h => by simp [readFields] at h }
  | succ fuel ih =>
    exact {
      value := fun h hrest => ih.readValue hrest h
      items := ih.readItems
      field := fun h hrest => ih.readField hrest h
      fields := ih.readFields }

/-- **JSON text is not respelled**, whatever text the reader accepts. -/
theorem respellWords_of_readChars (h : Json.readChars cs = .ok v) : respellWords cs = cs := by
  obtain ⟨⟨v', rest⟩, hvalue, h⟩ := exists_of_bind_eq_ok h
  obtain ⟨_, hend, -⟩ := exists_of_bind_eq_ok h
  have hblanks : skipSpace rest = [] := by
    rw [Json.Reader.readEnd] at hend
    split at hend
    · assumption
    · cases hend
  have hapart : Apart rest := by
    cases rest with
    | nil => exact apart_nil
    | cons d rest =>
      have hspace := List.dropWhile_eq_nil_iff.mp hblanks d List.mem_cons_self
      exact apart_cons (isSign_of_isSpace hspace).1 rest
  have hcopies := ((copiesValues _).value hvalue hapart).trans (copies_of_skipSpace hblanks)
  exact hcopies.eq_of_nil rfl

/-! ## What is respelled -/

/-- **Only words are respelled.** There is one way to go through a text word by word, sign by
sign and string by string. The respelling puts small spellings in the place of the words that
are one of the three and keeps every other lexeme, with all its characters, in its place. It
does nothing more when it is done again, and it does nothing to a text that is JSON. -/
theorem respellWords_by_lexemes (cs : List Char) :
    (∃ ls, Lexes cs ls ∧ (∀ ls', Lexes cs ls' → ls' = ls)
        ∧ ls.flatMap Lexeme.chars = cs
        ∧ (ls.map Lexeme.respell).flatMap Lexeme.chars = respellWords cs)
      ∧ respellWords (respellWords cs) = respellWords cs
      ∧ ∀ v, Json.readChars cs = .ok v → respellWords cs = cs := by
  obtain ⟨ls, hls⟩ := exists_lexes cs
  refine ⟨⟨ls, hls, fun ls' h => h.unique hls, hls.flatMap_chars, hls.respellWords_eq.symm⟩,
    respellWords_respellWords cs, fun v h => respellWords_of_readChars h⟩

/-- JSON text with the three words in its strings, and a quotation mark that is escaped. -/
def capitals : List Char :=
  "\x7b\"None\": [\"a \\\" True\", true, -15] \x7d".toList

theorem respellWords_by_lexemes_capitals :
    (∃ v, Json.readChars capitals = .ok v) ∧ respellWords capitals = capitals := by
  have hread : (Json.readChars capitals).isOk = true := by decide +kernel
  cases hv : Json.readChars capitals with
  | error fault =>
    rw [hv] at hread
    cases hread
  | ok v => exact ⟨⟨v, rfl⟩, (respellWords_by_lexemes capitals).2.2 v hv⟩

/-- A word may touch quotation marks, and a string with the wrong one at its end goes on. -/
example : respellWords "None'None'True\"\\\\\"False_ 'None\\' None".toList
    = "null'None'true\"\\\\\"False_ 'None\\' None".toList := by
  decide +kernel

end Colloquy.DictLiteral
