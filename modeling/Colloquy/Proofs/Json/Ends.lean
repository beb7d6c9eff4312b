import Colloquy.Proofs.DictLiteral.Reader
import Colloquy.Proofs.Json.Reader
import Mathlib.Data.List.TakeWhile

/-!
# Where JSON text begins and ends

Whatever the strict reader reads has, apart from blanks, a known first and a known last
character: a bracket or a brace, a quotation mark, a digit, or the first or last letter of one
of the three words, and perhaps a minus sign in front (`exists_beginsValue_of_readChars`,
`exists_endsValue_of_readChars`). Nothing is assumed about where the text comes from; it may
hold blanks and escapes that no printer writes.

The first character is looked at by the reader. For the last one, each of the functions that
read a part of the text is followed up to what it leaves over: what it takes is not nothing,
and ends as a value does (`Reader.Takes`). Of a string and of a number more is said than that,
since it is needed elsewhere too: in a string the mark that ends it is the first one without a
backslash in front (`Reader.StringRest`), and nothing stands in a number but the characters of
numbers (`Numeral.TakesNumber`).
-/

namespace Colloquy.Json

open Decimal (isDigit)

namespace Reader

/-- Whether a value may begin with a character. -/
def beginsValue (c : Char) : Bool :=
  c ∈ ['[', '{', 'n', 't', 'f', '"', '-'] || isDigit c

/-- Whether a value may end with a character. -/
def endsValue (c : Char) : Bool :=
  c ∈ [']', '}', 'l', 'e', '"'] || isDigit c

/-- **What is taken off a text is not nothing**, and ends as a value does. -/
def Takes (cs rest : List Char) : Prop :=
  ∃ used c, cs = used ++ c :: rest ∧ endsValue c = true

variable {cs mid rest : List Char} {c : Char} {fuel depth : Nat}

/-! ## Taking characters -/

theorem takes_cons (hc : endsValue c = true) (rest : List Char) : Takes (c :: rest) rest :=
  ⟨[], c, rfl, hc⟩

/-- More may be taken in front. -/
theorem Takes.of_suffix (h : Takes mid rest) (hmid : mid <:+ cs) : Takes cs rest := by
  obtain ⟨front, rfl⟩ := hmid
  obtain ⟨used, c, rfl, hc⟩ := h
  exact ⟨front ++ used, c, by rw [List.append_assoc], hc⟩

theorem Takes.suffix (h : Takes cs rest) : rest <:+ cs := by
  obtain ⟨used, c, rfl, -⟩ := h
  exact ⟨used ++ [c], by simp⟩

theorem Takes.trans (h : Takes cs mid) (h' : Takes mid rest) : Takes cs rest :=
  h'.of_suffix h.suffix

/-- Blanks may be skipped in front. -/
theorem suffix_of_skipSpace (h : skipSpace cs = rest) : rest <:+ cs :=
  h ▸ List.dropWhile_suffix isSpace

/-- So may the character behind them. -/
theorem suffix_of_skipSpace_cons (h : skipSpace cs = c :: rest) : rest <:+ cs :=
  (List.suffix_cons c rest).trans (suffix_of_skipSpace h)

/-- It may be all that is taken. -/
theorem takes_of_skipSpace (h : skipSpace cs = c :: rest) (hc : endsValue c = true) :
    Takes cs rest :=
  (takes_cons hc rest).of_suffix (suffix_of_skipSpace h)

/-! ## Strings -/

/-- **The rest of a string**, and what is behind the quotation mark that ends it. The digits of
a code are characters like all others, since no such mark is among them. -/
inductive StringRest : List Char → List Char → Prop
  /-- The quotation mark. -/
  | close {rest : List Char} : StringRest ('"' :: rest) rest
  /-- A character, and more. -/
  | plain {c : Char} {cs rest : List Char} (notMark : c ≠ '"') (notBackslash : c ≠ '\\')
      (more : StringRest cs rest) : StringRest (c :: cs) rest
  /-- A character behind a backslash, and more. -/
  | escaped {c : Char} {cs rest : List Char} (more : StringRest cs rest) :
      StringRest ('\\' :: c :: cs) rest

namespace StringRest

variable {n : Nat}

theorem hex (hc : hexValue? c = some n) (more : StringRest cs rest) : StringRest (c :: cs) rest := by
  refine .plain ?_ ?_ more
  all_goals
    rintro rfl
    cases hc

theorem quad? (h : Reader.quad? cs = some (n, mid)) (more : StringRest mid rest) :
    StringRest cs rest := by
  unfold Reader.quad? at h
  split at h
  · simp only [Option.bind_eq_bind, Option.bind_eq_some_iff, Option.pure_def, Option.some.injEq,
      Prod.mk.injEq] at h
    obtain ⟨_, ha, _, hb, _, hc, _, hd, -, rfl⟩ := h
    exact .hex ha (.hex hb (.hex hc (.hex hd more)))
  · cases h

theorem quad (h : readQuad cs = .ok (n, mid)) (more : StringRest mid rest) :
    StringRest cs rest := by
  unfold readQuad at h
  cases hquad : Reader.quad? cs with
  | none =>
    rw [hquad] at h
    dsimp only at h
    split_ifs at h
  | some r =>
    rw [hquad] at h
    cases h
    exact .quad? hquad more

end StringRest

theorem eq_cons_of_expectPair {wanted : Char} (h : expectPair wanted cs = .ok rest) :
    cs = wanted :: rest := by
  cases cs with
  | nil => cases h
  | cons c cs =>
    rw [expectPair] at h
    split_ifs at h with hc
    cases h
    rw [hc]

namespace StringRest

/-- The second half of a surrogate pair is escaped as the first one is. -/
theorem code (h : readCode cs = .ok (c, mid)) (more : StringRest mid rest) :
    StringRest cs rest := by
  obtain ⟨⟨n, behind⟩, hquad, h⟩ := exists_of_bind_eq_ok h
  dsimp only at h
  split_ifs at h
  · obtain ⟨slash, hslash, h⟩ := exists_of_bind_eq_ok h
    obtain ⟨letter, hletter, h⟩ := exists_of_bind_eq_ok h
    obtain ⟨⟨m, second⟩, hsecond, h⟩ := exists_of_bind_eq_ok h
    dsimp only at h
    split_ifs at h
    obtain ⟨-, rfl⟩ := Prod.mk.inj (Except.ok.inj h)
    rw [eq_cons_of_expectPair hslash, eq_cons_of_expectPair hletter] at hquad
    exact .quad hquad (.escaped (.quad hsecond more))
  · obtain ⟨-, rfl⟩ := Prod.mk.inj (Except.ok.inj h)
    exact .quad hquad more

theorem escape (h : readEscape cs = .ok (c, mid)) (more : StringRest mid rest) :
    StringRest ('\\' :: cs) rest := by
  cases cs with
  | nil => cases h
  | cons d cs =>
    rw [readEscape] at h
    split_ifs at h
    · exact .escaped (.code h more)
    · cases hescaped : escaped? d with
      | none =>
        rw [hescaped] at h
        cases h
      | some e =>
        rw [hescaped] at h
        cases h
        exact .escaped more

/-- **A string ends with its quotation mark.** -/
theorem takes (h : StringRest cs rest) : Takes cs rest := by
  induction h with
  | close => exact takes_cons (by decide) _
  | plain _ _ _ ih => exact ih.of_suffix (List.suffix_cons _ _)
  | escaped _ ih => exact ih.of_suffix ((List.suffix_cons _ _).trans (List.suffix_cons _ _))

end StringRest

theorem stringRest_of_readChars {ds : List Char} (h : readChars fuel cs = .ok (ds, rest)) :
    StringRest cs rest := by
  induction fuel generalizing cs ds with
  | zero => cases h
  | succ fuel ih =>
    cases cs with
    | nil => cases h
    | cons c cs =>
      rw [readChars] at h
      split_ifs at h with hmark hbackslash
      · cases h
        rw [hmark]
        exact .close
      · obtain ⟨⟨d, behind⟩, hescape, h⟩ := exists_of_bind_eq_ok h
        obtain ⟨⟨ds', _⟩, hchars, h⟩ := exists_of_bind_eq_ok h
        cases h
        rw [hbackslash]
        exact .escape hescape (ih hchars)
      · obtain ⟨⟨ds', _⟩, hchars, h⟩ := exists_of_bind_eq_ok h
        cases h
        exact .plain hmark hbackslash (ih hchars)

/-- **What is read as a string is the rest of one.** -/
theorem stringRest_of_readString {s : String} (h : readString cs = .ok (s, rest)) :
    StringRest cs rest := by
  obtain ⟨⟨ds, _⟩, hchars, h⟩ := exists_of_bind_eq_ok h
  cases h
  exact stringRest_of_readChars hchars

end Reader

/-! ## Numbers -/

namespace Numeral

open DictLiteral (inRun inRun_of_isDigit)
open Reader (Takes endsValue)

variable {cs mid rest behind run : List Char} {c : Char} {x : Option Number} {n : Number}
variable {negative : Bool} {significand : Nat} {start : Int}

/-- **Only characters of numbers are taken off a text.** -/
def TakesRun (cs rest : List Char) : Prop :=
  ∃ used, cs = used ++ rest ∧ ∀ d ∈ used, inRun d = true

/-- **A number is taken off a text**: such characters, the last of which is a digit. -/
def TakesNumber (cs rest : List Char) : Prop :=
  ∃ used c, cs = used ++ c :: rest ∧ (∀ d ∈ used, inRun d = true) ∧ isDigit c = true

namespace TakesRun

theorem refl (cs : List Char) : TakesRun cs cs :=
  ⟨[], rfl, List.forall_mem_nil _⟩

theorem cons (hc : inRun c = true) (cs : List Char) : TakesRun (c :: cs) cs :=
  ⟨[c], rfl, List.forall_mem_singleton.mpr hc⟩

/-- A character that was looked for is taken. -/
theorem drop_one (hhead : cs.head? = some c) (hc : inRun c = true) : TakesRun cs (cs.drop 1) := by
  obtain ⟨rest, rfl⟩ := List.head?_eq_some_iff.mp hhead
  exact cons hc rest

/-- So is the mark of an exponent. -/
theorem of_atExponent (h : atExponent cs = true) : TakesRun cs (cs.drop 1) := by
  simp only [atExponent, Bool.or_eq_true, beq_iff_eq] at h
  rcases h with h | h
  · exact .drop_one h (by decide)
  · exact .drop_one h (by decide)

/-- More may be taken in front of a number. -/
theorem number (h : TakesRun cs mid) (h' : TakesNumber mid rest) : TakesNumber cs rest := by
  obtain ⟨front, rfl, hfront⟩ := h
  obtain ⟨used, c, rfl, hused, hc⟩ := h'
  exact ⟨front ++ used, c, by rw [List.append_assoc], List.forall_mem_append.mpr ⟨hfront, hused⟩,
    hc⟩

end TakesRun

namespace TakesNumber

theorem takesRun (h : TakesNumber cs rest) : TakesRun cs rest := by
  obtain ⟨used, c, rfl, hused, hc⟩ := h
  refine ⟨used ++ [c], by simp, List.forall_mem_append.mpr ⟨hused, ?_⟩⟩
  exact List.forall_mem_singleton.mpr (inRun_of_isDigit hc)

theorem trans (h : TakesNumber cs mid) (h' : TakesNumber mid rest) : TakesNumber cs rest :=
  h.takesRun.number h'

/-- **A number ends as a value does.** -/
theorem takes (h : TakesNumber cs rest) : Takes cs rest := by
  obtain ⟨used, c, rfl, -, hc⟩ := h
  exact ⟨used, c, rfl, by simp [endsValue, hc]⟩

end TakesNumber

/-- **A run of digits ends with a digit.** -/
theorem takesNumber_dropWhile (h : cs.takeWhile isDigit ≠ []) :
    TakesNumber cs (cs.dropWhile isDigit) := by
  have hdigit : ∀ d ∈ cs.takeWhile isDigit, isDigit d = true := fun d hd => List.mem_takeWhile_imp hd
  refine ⟨(cs.takeWhile isDigit).dropLast, (cs.takeWhile isDigit).getLast h, ?_, fun d hd => ?_,
    hdigit _ (List.getLast_mem h)⟩
  · rw [List.append_cons, List.dropLast_concat_getLast h, List.takeWhile_append_dropWhile]
  · exact inRun_of_isDigit (hdigit d (List.dropLast_subset _ hd))

theorem eq_of_inRange (h : inRange x behind = .ok (n, rest)) : rest = behind := by
  cases x with
  | none => cases h
  | some x =>
    cases h
    rfl

theorem takesNumber_of_readExponent
    (h : readExponent negative significand start cs = .ok (n, rest)) : TakesNumber cs rest := by
  simp only [readExponent] at h
  have hsign : TakesRun cs
      (if (cs.head? == some '-' || cs.head? == some '+') = true then cs.drop 1 else cs) := by
    split_ifs with hhead
    · simp only [Bool.or_eq_true, beq_iff_eq] at hhead
      rcases hhead with hminus | hplus
      · exact .drop_one hminus (by decide)
      · exact .drop_one hplus (by decide)
    · exact .refl cs
  generalize (if (cs.head? == some '-' || cs.head? == some '+') = true then cs.drop 1 else cs)
    = body at h hsign
  split at h
  · cases h
  · next hrun =>
    have hbody : TakesNumber body (body.dropWhile isDigit) := takesNumber_dropWhile hrun
    split at h
    · exact eq_of_inRange h ▸ hsign.number hbody
    · split_ifs at h
      exact eq_of_inRange h ▸ hsign.number hbody

theorem takesNumber_of_readFraction
    (h : readFraction negative significand start cs = .ok (n, rest)) : TakesNumber cs rest := by
  simp only [readFraction] at h
  split at h
  · cases h
  · next hrun =>
    have hdigits : TakesNumber cs (cs.dropWhile isDigit) := takesNumber_dropWhile hrun
    split_ifs at h with hexponent
    · have hmark := TakesRun.of_atExponent hexponent
      exact hdigits.trans (hmark.number (takesNumber_of_readExponent h))
    · exact eq_of_inRange h ▸ hdigits

/-- Behind the digits in front of the point there may be nothing more. -/
theorem eq_or_takesNumber_of_readBehind (h : readBehind negative run cs = .ok (n, rest)) :
    rest = cs ∨ TakesNumber cs rest := by
  simp only [readBehind] at h
  split_ifs at h with hpoint hexponent
  · have hmark : TakesRun cs (cs.drop 1) := .drop_one (beq_iff_eq.mp hpoint) (by decide)
    exact .inr (hmark.number (takesNumber_of_readFraction h))
  · have hmark := TakesRun.of_atExponent hexponent
    exact .inr (hmark.number (takesNumber_of_readExponent h))
  · exact .inl (eq_of_inRange h)
  · exact .inl (eq_of_inRange h)

theorem takesNumber_of_readMagnitude (h : readMagnitude negative cs = .ok (n, rest)) :
    TakesNumber cs rest := by
  have hdigits {cs behind run : List Char} (hcs : TakesNumber cs behind)
      (h : readBehind negative run behind = .ok (n, rest)) : TakesNumber cs rest := by
    rcases eq_or_takesNumber_of_readBehind h with rfl | hbehind
    · exact hcs
    · exact hcs.trans hbehind
  cases cs with
  | nil => cases h
  | cons c cs =>
    simp only [readMagnitude] at h
    split_ifs at h with hzero hdigit
    · have hcs : TakesNumber (c :: cs) cs :=
        ⟨[], c, rfl, List.forall_mem_nil _, by rw [hzero]; decide⟩
      cases cs with
      | nil => exact hdigits hcs h
      | cons d cs =>
        dsimp only at h
        split_ifs at h
        exact hdigits hcs h
    · refine hdigits (takesNumber_dropWhile ?_) h
      rw [List.takeWhile_cons_of_pos hdigit]
      exact List.cons_ne_nil _ _

/-- **What is read as a number is one**, with its sign. -/
theorem takesNumber_of_read (h : read cs = .ok (n, rest)) : TakesNumber cs rest := by
  unfold read at h
  split at h
  · exact (TakesRun.cons (by decide) _).number (takesNumber_of_readMagnitude h)
  · exact takesNumber_of_readMagnitude h

end Numeral

/-! ## Values -/

namespace Reader

variable {cs rest : List Char} {c : Char} {v : Json} {fuel depth : Nat}

theorem takes_of_scalarRead (h : ScalarRead cs v rest) : Takes cs rest := by
  cases h with
  | null => exact ⟨['n', 'u', 'l'], 'l', rfl, by decide⟩
  | yes => exact ⟨['t', 'r', 'u'], 'e', rfl, by decide⟩
  | no => exact ⟨['f', 'a', 'l', 's'], 'e', rfl, by decide⟩
  | str read => exact (stringRest_of_readString read).takes.of_suffix (List.suffix_cons _ _)
  | num read => exact (Numeral.takesNumber_of_read read).takes

theorem suffix_of_readColon (h : readColon cs = .ok rest) : rest <:+ cs := by
  unfold readColon at h
  split at h
  · cases h
  · next c behind hskip =>
    split_ifs at h
    cases h
    exact suffix_of_skipSpace_cons hskip

/-- **The readers of values take what ends as a value**, with so much fuel. -/
structure TakesValues (fuel : Nat) : Prop where
  /-- A value. -/
  value : ∀ {depth cs v rest}, readValue fuel depth cs = .ok (v, rest) → Takes cs rest
  /-- The further items of a list. -/
  items : ∀ {depth cs vs rest}, readItems fuel depth cs = .ok (vs, rest) → Takes cs rest
  /-- A field. -/
  field : ∀ {depth cs e rest}, readField fuel depth cs = .ok (e, rest) → Takes cs rest
  /-- The further fields of an object. -/
  fields : ∀ {depth cs es rest}, readFields fuel depth cs = .ok (es, rest) → Takes cs rest

namespace TakesValues

theorem readValue (h : TakesValues fuel)
    (hread : readValue (fuel + 1) depth cs = .ok (v, rest)) : Takes cs rest := by
  cases valueRead hread with
  | emptyList opens closes =>
    exact (takes_of_skipSpace closes (by decide)).of_suffix (suffix_of_skipSpace_cons opens)
  | list opens blanks item further =>
    have hitems := (h.value item).trans (h.items further)
    exact hitems.of_suffix ((suffix_of_skipSpace blanks).trans (suffix_of_skipSpace_cons opens))
  | emptyObject opens closes =>
    exact (takes_of_skipSpace closes (by decide)).of_suffix (suffix_of_skipSpace_cons opens)
  | object opens blanks field further =>
    have hfields := (h.field field).trans (h.fields further)
    exact hfields.of_suffix
      ((suffix_of_skipSpace_cons blanks).trans (suffix_of_skipSpace_cons opens))
  | scalar blanks read => exact (takes_of_scalarRead read).of_suffix (suffix_of_skipSpace blanks)

theorem readItems (h : TakesValues fuel) {vs : List Json}
    (hread : readItems (fuel + 1) depth cs = .ok (vs, rest)) : Takes cs rest := by
  cases itemsRead hread with
  | close closes => exact takes_of_skipSpace closes (by decide)
  | item comma blanks item further =>
    have hitems := (h.value item).trans (h.items further)
    exact hitems.of_suffix ((suffix_of_skipSpace blanks).trans (suffix_of_skipSpace_cons comma))

theorem readField (h : TakesValues fuel) {e : String × Json}
    (hread : readField (fuel + 1) depth cs = .ok (e, rest)) : Takes cs rest := by
  obtain ⟨_, _, hname, hcolon, hvalue⟩ := fieldRead hread
  exact (h.value hvalue).of_suffix
    ((suffix_of_readColon hcolon).trans (stringRest_of_readString hname).takes.suffix)

theorem readFields (h : TakesValues fuel) {es : List (String × Json)}
    (hread : readFields (fuel + 1) depth cs = .ok (es, rest)) : Takes cs rest := by
  cases fieldsRead hread with
  | close closes => exact takes_of_skipSpace closes (by decide)
  | field comma blanks field further =>
    have hfields := (h.field field).trans (h.fields further)
    exact hfields.of_suffix
      ((suffix_of_skipSpace_cons blanks).trans (suffix_of_skipSpace_cons comma))

end TakesValues

/-- **The readers of values take what ends as a value**, with any fuel. -/
theorem takesValues (fuel : Nat) : TakesValues fuel := by
  induction fuel with
  | zero =>
    exact {
      value := fun h => by simp [readValue] at h
      items := fun h => by simp [readItems] at h
      field := fun h => by simp [readField] at h
      fields := fun h => by simp [readFields] at h }
  | succ fuel ih => exact ⟨ih.readValue, ih.readItems, ih.readField, ih.readFields⟩

end Reader

open Reader (beginsValue endsValue isSpace skipSpace)

variable {cs : List Char} {v : Json}

/-- **What is read begins as a value does**, behind blanks. -/
theorem exists_beginsValue_of_readChars (h : readChars cs = .ok v) :
    ∃ c rest, skipSpace cs = c :: rest ∧ beginsValue c = true := by
  obtain ⟨⟨v', rest⟩, hvalue, -⟩ := Reader.exists_of_bind_eq_ok h
  rw [Reader.readValue] at hvalue
  cases hskip : skipSpace cs with
  | nil =>
    rw [hskip] at hvalue
    cases hvalue
  | cons c rest =>
    refine ⟨c, rest, rfl, ?_⟩
    rw [hskip] at hvalue
    dsimp only at hvalue
    by_contra hbegins
    simp only [beginsValue, Bool.or_eq_true, decide_eq_true_eq, List.mem_cons, List.not_mem_nil,
      or_false, not_or] at hbegins
    obtain ⟨⟨hlist, hobject, hn, ht, hf, hquote, hminus⟩, hdigit⟩ := hbegins
    rw [if_neg hlist, if_neg hobject, Reader.readScalar, if_neg hn, if_neg ht, if_neg hf,
      if_neg hquote, if_neg (by simp [hminus, hdigit])] at hvalue
    cases hvalue

/-- **What is read ends as a value does**, in front of blanks. -/
theorem exists_endsValue_of_readChars (h : readChars cs = .ok v) :
    ∃ used c spaces, cs = used ++ c :: spaces ∧ endsValue c = true ∧
      ∀ d ∈ spaces, isSpace d = true := by
  obtain ⟨⟨v', rest⟩, hvalue, h⟩ := Reader.exists_of_bind_eq_ok h
  obtain ⟨_, hend, -⟩ := Reader.exists_of_bind_eq_ok h
  obtain ⟨used, c, hcs, hc⟩ := (Reader.takesValues _).value hvalue
  refine ⟨used, c, rest, hcs, hc, ?_⟩
  rw [Reader.readEnd] at hend
  split at hend
  · next hskip => exact List.dropWhile_eq_nil_iff.mp hskip
  · cases hend

end Colloquy.Json
