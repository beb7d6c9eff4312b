import Colloquy.Proofs.Json.Numbers
import Colloquy.Proofs.Json.Order

/-!
# What is written is read back

The compact text of a value is read as that value (`Readable.readChars_print`), if the value
is one that a reader can make at all – in order, and nested no deeper than the reader goes –
and its numbers read back. Both are so of whatever has been read (`inOrder_of_readChars`,
`fits_of_readChars`), and integers always read back, so that only doubles are left to ask
about. All that is asked of a value goes by one name (`Readable`), and lists and objects have
it from what they hold.

The proof follows the printer. It is enough to know, for each value, that it is read back
in front of whatever may follow it in a larger text (`ReadsAt`); what is said there about
the items of a list or the fields of an object follows from the same of each of them. A
step of the reader takes at least one character, so that the length of the text is fuel
enough.
-/

namespace Colloquy.Json

open Decimal (isDigit)

/-- **A value fits into so many levels** of lists and objects. -/
inductive Fits : Nat → Json → Prop
  /-- The null value. -/
  | null {depth : Nat} : Fits depth .null
  /-- A truth value. -/
  | bool {depth : Nat} (b : Bool) : Fits depth (.bool b)
  /-- A number. -/
  | num {depth : Nat} (n : Number) : Fits depth (.num n)
  /-- A string. -/
  | str {depth : Nat} (s : String) : Fits depth (.str s)
  /-- All items fit into the levels below the list. -/
  | arr {depth : Nat} {items : List Json} (inner : ∀ v ∈ items, Fits depth v) :
      Fits (depth + 1) (.arr items)
  /-- All values fit into the levels below the object. -/
  | obj {depth : Nat} {fields : Fields} (inner : ∀ e ∈ fields, Fits depth e.2) :
      Fits (depth + 1) (.obj fields)

/-- **A number occurs in a value.** -/
inductive Occurs (n : Number) : Json → Prop
  /-- It is the value. -/
  | num : Occurs n (.num n)
  /-- It occurs in an item. -/
  | arr {items : List Json} {v : Json} (mem : v ∈ items) (inner : Occurs n v) :
      Occurs n (.arr items)
  /-- It occurs in the value of a field. -/
  | obj {fields : Fields} {e : String × Json} (mem : e ∈ fields) (inner : Occurs n e.2) :
      Occurs n (.obj fields)

section Occurs

variable {n m : Number}

@[simp] theorem not_occurs_null : ¬Occurs n .null := fun h => by cases h

@[simp] theorem not_occurs_bool {b : Bool} : ¬Occurs n (.bool b) := fun h => by cases h

@[simp] theorem not_occurs_str {s : String} : ¬Occurs n (.str s) := fun h => by cases h

@[simp] theorem occurs_num_iff : Occurs n (.num m) ↔ n = m :=
  ⟨fun h => by cases h; rfl, fun h => h ▸ .num⟩

@[simp] theorem occurs_arr_iff {items : List Json} :
    Occurs n (.arr items) ↔ ∃ v ∈ items, Occurs n v :=
  ⟨fun h => by cases h with | arr mem inner => exact ⟨_, mem, inner⟩,
    fun ⟨_, mem, inner⟩ => .arr mem inner⟩

@[simp] theorem occurs_obj_iff {fields : Fields} :
    Occurs n (.obj fields) ↔ ∃ e ∈ fields, Occurs n e.2 :=
  ⟨fun h => by cases h with | obj mem inner => exact ⟨_, mem, inner⟩,
    fun ⟨_, mem, inner⟩ => .obj mem inner⟩

end Occurs

/-- The reader makes no value that does not fit into its levels. -/
theorem Reader.closed_fits : Reader.Closed Fits where
  null := .null
  bool b := .bool b
  num n := .num n
  str s := .str s
  arr inner := .arr inner
  obj inner := .obj fun e he => inner e (Fields.mem_of_mem_ofList he)

/-- **What has been read fits** into the levels the reader has. -/
theorem fits_of_readChars {cs : List Char} {v : Json} (h : readChars cs = .ok v) :
    v.Fits Reader.greatestDepth :=
  Reader.closed_fits.of_readChars h

namespace Reader

/-! ## Strings -/

theorem hexValue?_hexDigit : ∀ {d : Nat}, d < 16 → hexValue? (hexDigit d) = some d := by
  decide

variable {fuel : Nat} {cs rest : List Char}

/-- A control character is read from its code. -/
theorem readCode_control {c : Char} (h : c.toNat < 0x20) (rest : List Char) :
    readCode ('0' :: '0' :: hexDigit (c.toNat / 16) :: hexDigit (c.toNat % 16) :: rest)
      = .ok (c, rest) := by
  have hquad : quad? ('0' :: '0' :: hexDigit (c.toNat / 16) :: hexDigit (c.toNat % 16) :: rest)
      = some (c.toNat, rest) := by
    have hzero : hexValue? '0' = some 0 := by decide
    have hvalue : 16 * (c.toNat / 16) + c.toNat % 16 = c.toNat := Nat.div_add_mod _ _
    simp [quad?, hzero, hexValue?_hexDigit (show c.toNat / 16 < 16 by omega),
      hexValue?_hexDigit (show c.toNat % 16 < 16 by omega), hvalue]
  have hleading : isLeading c.toNat = false := by
    simp only [isLeading, Bool.and_eq_false_iff, decide_eq_false_iff_not]
    omega
  have htrailing : isTrailing c.toNat = false := by
    simp only [isTrailing, Bool.and_eq_false_iff, decide_eq_false_iff_not]
    omega
  simp [readCode, readQuad, hquad, hleading, htrailing, bind, Except.bind]

/-- A backslash and what stands behind it are read as one character. -/
theorem readChars_escape {c : Char} (h : readEscape cs = .ok (c, rest)) :
    readChars (fuel + 1) ('\\' :: cs) = (readChars fuel rest).map fun r => (c :: r.1, r.2) := by
  rw [readChars, if_neg (by decide), if_pos rfl, h]
  show (readChars fuel rest >>= _) = _
  cases readChars fuel rest <;> rfl

/-- **A character of a string is read from what is written for it.** -/
theorem readChars_printChar (c : Char) (rest : List Char) :
    readChars (fuel + 1) (printChar c ++ rest)
      = (readChars fuel rest).map fun r => (c :: r.1, r.2) := by
  unfold printChar
  split_ifs with hquote hback hb hf hn hr ht hcontrol
  · subst hquote
    exact readChars_escape rfl
  · subst hback
    exact readChars_escape rfl
  · subst hb
    exact readChars_escape rfl
  · subst hf
    exact readChars_escape rfl
  · subst hn
    exact readChars_escape rfl
  · subst hr
    exact readChars_escape rfl
  · subst ht
    exact readChars_escape rfl
  · exact readChars_escape (readCode_control hcontrol rest)
  · rw [List.singleton_append, readChars, if_neg hquote, if_neg hback, if_neg hcontrol]
    cases readChars fuel rest <;> rfl

/-- A string takes one character at least for each of its own. -/
theorem length_le_flatMap_printChar (cs : List Char) :
    cs.length ≤ (cs.flatMap printChar).length := by
  induction cs with
  | nil => exact le_rfl
  | cons c cs ih =>
    have hpos : 0 < (printChar c).length := by
      unfold printChar
      split_ifs <;> exact Nat.succ_pos _
    rw [List.flatMap_cons, List.length_append, List.length_cons]
    omega

theorem readChars_flatMap_printChar (h : cs.length < fuel) :
    readChars fuel (cs.flatMap printChar ++ '"' :: rest) = .ok (cs, rest) := by
  induction cs generalizing fuel with
  | nil =>
    obtain ⟨fuel, rfl⟩ := Nat.exists_eq_succ_of_ne_zero (by omega : fuel ≠ 0)
    rfl
  | cons c cs ih =>
    obtain ⟨fuel, rfl⟩ := Nat.exists_eq_succ_of_ne_zero (by omega : fuel ≠ 0)
    rw [List.flatMap_cons, List.append_assoc, readChars_printChar,
      ih (Nat.lt_of_succ_lt_succ h)]
    rfl

/-- **A string is read back**, behind its quotation mark. -/
theorem readString_flatMap_printChar (s : String) (rest : List Char) :
    readString (s.toList.flatMap printChar ++ '"' :: rest) = .ok (s, rest) := by
  have hfuel : s.toList.length < (s.toList.flatMap printChar ++ '"' :: rest).length + 1 := by
    have hlength := length_le_flatMap_printChar s.toList
    rw [List.length_append]
    omega
  rw [readString, readChars_flatMap_printChar hfuel]
  show Except.ok (String.ofList s.toList, rest) = _
  rw [String.ofList_toList]

/-! ## Values -/

/-- **A value is read back at a depth**, in front of whatever follows it. Its first
character is seen twice: once by the list it may be the first item of. -/
structure ReadsAt (depth : Nat) (v : Json) : Prop where
  /-- What is written for it begins neither with a blank nor with the end of a list. -/
  begins : ∃ c cs, v.print = c :: cs ∧ isSpace c = false ∧ c ≠ ']'
  /-- It is what is read. -/
  value : ∀ {fuel rest}, v.print.length ≤ fuel → Numeral.Stops rest →
    readValue fuel depth (v.print ++ rest) = .ok (v, rest)

variable {depth : Nat} {v : Json}

theorem skipSpace_cons {c : Char} (h : isSpace c = false) (cs : List Char) :
    skipSpace (c :: cs) = c :: cs :=
  List.dropWhile_cons_of_neg (by simp [h])

theorem readValue_of_scalar {c : Char} (hspace : isSpace c = false) (hlist : c ≠ '[')
    (hobject : c ≠ '{') (cs : List Char) :
    readValue (fuel + 1) depth (c :: cs) = readScalar (c :: cs) := by
  rw [readValue, skipSpace_cons hspace]
  dsimp only
  rw [if_neg hlist, if_neg hobject]

/-- A scalar is read back if it is read back as one. -/
theorem ReadsAt.of_readScalar {c : Char} (hprint : v.print = c :: cs)
    (hspace : isSpace c = false) (hend : c ≠ ']') (hlist : c ≠ '[') (hobject : c ≠ '{')
    (hread : ∀ rest, Numeral.Stops rest → readScalar (v.print ++ rest) = .ok (v, rest)) :
    ReadsAt depth v where
  begins := ⟨c, cs, hprint, hspace, hend⟩
  value {fuel rest} hfuel hrest := by
    rw [hprint, List.length_cons] at hfuel
    obtain ⟨fuel, rfl⟩ := Nat.exists_eq_add_of_le' (Nat.le_of_add_left_le hfuel)
    rw [← hread rest hrest, hprint]
    exact readValue_of_scalar hspace hlist hobject _

theorem readsAt_null : ReadsAt depth .null :=
  .of_readScalar rfl (by decide) (by decide) (by decide) (by decide) fun _ _ => rfl

theorem readsAt_bool (b : Bool) : ReadsAt depth (.bool b) := by
  cases b with
  | false =>
    exact .of_readScalar rfl (by decide) (by decide) (by decide) (by decide) fun _ _ => rfl
  | true =>
    exact .of_readScalar rfl (by decide) (by decide) (by decide) (by decide) fun _ _ => rfl

theorem readsAt_str (s : String) : ReadsAt depth (.str s) := by
  refine .of_readScalar rfl (by decide) (by decide) (by decide) (by decide) fun rest _ => ?_
  have hprint : (Json.str s).print ++ rest
      = '"' :: (s.toList.flatMap printChar ++ '"' :: rest) := by
    simp [print, printString]
  rw [hprint, readScalar, if_neg (by decide), if_neg (by decide), if_neg (by decide), if_pos rfl,
    readString_flatMap_printChar]
  rfl

/-- What a number does not begin with. -/
theorem not_mem_of_number {c : Char} (h : c = '-' ∨ isDigit c = true) :
    c ∉ [' ', '\n', '\t', '\r', ']', '[', '{', 'n', 't', 'f', '"'] := by
  have hother : ∀ d ∈ [' ', '\n', '\t', '\r', ']', '[', '{', 'n', 't', 'f', '"'],
      ¬(d = '-' ∨ isDigit d = true) := by
    -- one by one, not for all characters there are
    simp only [List.forall_mem_cons, List.not_mem_nil, false_implies, implies_true, and_true]
    decide
  exact fun hmem => hother c hmem h

theorem readsAt_num {n : Number} (h : n.ReadsBack) : ReadsAt depth (.num n) := by
  obtain ⟨c, cs, hprint, hc⟩ := h.exists_print_eq_cons
  have hmem := not_mem_of_number hc
  simp only [List.mem_cons, not_or, List.not_mem_nil, not_false_eq_true, and_true] at hmem
  obtain ⟨hblank, hline, htab, hreturn, hend, hlist, hobject, hn, ht, hf, hquote⟩ := hmem
  have hspace : isSpace c = false := by simp [isSpace, hblank, hline, htab, hreturn]
  have hnumber : (decide (c = '-') || isDigit c) = true := by simpa using hc
  refine .of_readScalar (hprint : (Json.num n).print = c :: cs) hspace hend hlist hobject
    fun rest hrest => ?_
  have hread := h.read_append hrest
  rw [show (Json.num n).print = n.print from rfl]
  rw [hprint, List.cons_append] at hread ⊢
  rw [readScalar, if_neg hn, if_neg ht, if_neg hf, if_neg hquote, if_pos hnumber, hread]
  rfl

/-! ## Lists -/

/-- No number goes on behind a value that is an item of a list. -/
theorem stops_printItems (vs : List Json) (rest : List Char) :
    Numeral.Stops (printItems vs ++ rest) := by
  intro c hc
  cases vs <;> cases hc <;> decide

/-- One item more is read in front of the others. -/
theorem readItems_cons {vs : List Json} (hv : ReadsAt depth v) (hfuel : v.print.length ≤ fuel)
    (hcs : Numeral.Stops cs) (h : readItems fuel depth cs = .ok (vs, rest)) :
    readItems (fuel + 1) depth (',' :: (v.print ++ cs)) = .ok (v :: vs, rest) := by
  have hvalue := hv.value hfuel hcs
  obtain ⟨c, ds, hprint, hspace, hend⟩ := hv.begins
  rw [hprint, List.cons_append] at hvalue ⊢
  rw [readItems, skipSpace_cons (by decide)]
  dsimp only
  rw [if_neg (by decide), if_pos rfl, skipSpace_cons hspace]
  dsimp only
  rw [if_neg hend, hvalue]
  show (readItems fuel depth cs >>= _) = _
  rw [h]
  rfl

/-- **The further items of a list are read back** if each of them is. -/
theorem readItems_printItems {vs : List Json} (h : ∀ v ∈ vs, ReadsAt depth v)
    (hfuel : (printItems vs).length ≤ fuel) :
    readItems fuel depth (printItems vs ++ rest) = .ok (vs, rest) := by
  induction vs generalizing fuel with
  | nil =>
    obtain ⟨fuel, rfl⟩ : ∃ k, fuel = k + 1 := Nat.exists_eq_add_of_le' hfuel
    rw [printItems, List.singleton_append, readItems, skipSpace_cons (by decide)]
    rfl
  | cons v vs ih =>
    obtain ⟨hv, hvs⟩ := List.forall_mem_cons.mp h
    rw [printItems, List.length_cons, List.length_append] at hfuel
    obtain ⟨fuel, rfl⟩ := Nat.exists_eq_add_of_le' (Nat.le_of_add_left_le hfuel)
    rw [printItems, List.cons_append, List.append_assoc]
    exact readItems_cons hv (by omega) (stops_printItems vs rest) (ih hvs (by omega))

/-- **A list is read back** if its items are. -/
theorem readsAt_arr {vs : List Json} (h : ∀ v ∈ vs, ReadsAt depth v) :
    ReadsAt (depth + 1) (.arr vs) where
  begins := by cases vs <;> exact ⟨'[', _, rfl, by decide, by decide⟩
  value {fuel rest} hfuel _ := by
    cases vs with
    | nil =>
      obtain ⟨fuel, rfl⟩ : ∃ k, fuel = k + 1 :=
        Nat.exists_eq_add_of_le' (Nat.le_of_add_left_le hfuel)
      rw [print, List.cons_append, readValue, skipSpace_cons (by decide)]
      dsimp only
      rw [if_pos rfl, List.singleton_append, skipSpace_cons (by decide)]
      rfl
    | cons v vs =>
      obtain ⟨hv, hvs⟩ := List.forall_mem_cons.mp h
      rw [print, List.length_cons, List.length_append] at hfuel
      obtain ⟨fuel, rfl⟩ := Nat.exists_eq_add_of_le' (Nat.le_of_add_left_le hfuel)
      have hlength : v.print.length ≤ fuel := by omega
      have hvalue := hv.value hlength (stops_printItems vs rest)
      obtain ⟨c, ds, hprint, hspace, hend⟩ := hv.begins
      rw [print, List.cons_append, List.append_assoc]
      rw [hprint, List.cons_append] at hvalue ⊢
      rw [readValue, skipSpace_cons (by decide)]
      dsimp only
      rw [if_pos rfl, skipSpace_cons hspace]
      dsimp only
      rw [if_neg hend, hvalue]
      show (readItems fuel depth (printItems vs ++ rest) >>= _) = _
      rw [readItems_printItems hvs (by omega)]
      rfl

/-! ## Objects -/

/-- No number goes on behind the value of a field. -/
theorem stops_printFields (es : Fields) (rest : List Char) :
    Numeral.Stops (printFields es ++ rest) := by
  intro c hc
  cases es <;> cases hc <;> decide

theorem readColon_cons (cs : List Char) : readColon (':' :: cs) = .ok cs := by
  rw [readColon, skipSpace_cons (by decide)]
  rfl

/-- **A field is read back**, behind the quotation mark of its name. -/
theorem readField_of_readsAt (name : String) (hv : ReadsAt depth v)
    (hfuel : v.print.length < fuel) (hrest : Numeral.Stops rest) :
    readField fuel depth (name.toList.flatMap printChar ++ '"' :: ':' :: (v.print ++ rest))
      = .ok ((name, v), rest) := by
  obtain ⟨fuel, rfl⟩ : ∃ k, fuel = k + 1 := Nat.exists_eq_add_of_le' (by omega)
  rw [readField, readString_flatMap_printChar]
  dsimp only [bind, Except.bind]
  rw [readColon_cons]
  dsimp only
  rw [hv.value (Nat.le_of_lt_succ hfuel) hrest]

/-- The text of a field, as the reader sees it. -/
theorem printString_append (name : String) (cs : List Char) :
    printString name ++ ':' :: cs
      = '"' :: (name.toList.flatMap printChar ++ '"' :: ':' :: cs) := by
  simp [printString]

/-- One field more is read in front of the others. -/
theorem readFields_cons {name : String} {es : Fields} (hv : ReadsAt depth v)
    (hfuel : v.print.length < fuel) (hcs : Numeral.Stops cs)
    (h : readFields fuel depth cs = .ok (es, rest)) :
    readFields (fuel + 1) depth (',' :: (printString name ++ ':' :: (v.print ++ cs)))
      = .ok ((name, v) :: es, rest) := by
  rw [readFields, skipSpace_cons (by decide)]
  dsimp only
  rw [if_neg (by decide), if_pos rfl, printString_append, skipSpace_cons (by decide)]
  dsimp only
  rw [if_neg (by decide), if_pos rfl, readField_of_readsAt name hv hfuel hcs]
  dsimp only [bind, Except.bind]
  rw [h]

/-- **The further fields of an object are read back** if their values are. -/
theorem readFields_printFields {es : Fields} (h : ∀ e ∈ es, ReadsAt depth e.2)
    (hfuel : (printFields es).length ≤ fuel) :
    readFields fuel depth (printFields es ++ rest) = .ok (es, rest) := by
  induction es generalizing fuel with
  | nil =>
    obtain ⟨fuel, rfl⟩ : ∃ k, fuel = k + 1 := Nat.exists_eq_add_of_le' hfuel
    rw [printFields, List.singleton_append, readFields, skipSpace_cons (by decide)]
    rfl
  | cons e es ih =>
    obtain ⟨name, v⟩ := e
    have hv : ReadsAt depth v := h _ List.mem_cons_self
    have hes : ∀ e ∈ es, ReadsAt depth e.2 := fun e he => h e (List.mem_cons_of_mem _ he)
    simp only [printFields, List.length_cons, List.length_append] at hfuel
    obtain ⟨fuel, rfl⟩ := Nat.exists_eq_add_of_le' (Nat.le_of_add_left_le hfuel)
    rw [printFields, List.cons_append, List.append_assoc, List.cons_append, List.append_assoc]
    exact readFields_cons hv (by omega) (stops_printFields es rest) (ih hes (by omega))

/-- **An object is read back** if its fields are sorted and their values are read back. -/
theorem readsAt_obj {es : Fields} (hsorted : es.Sorted) (h : ∀ e ∈ es, ReadsAt depth e.2) :
    ReadsAt (depth + 1) (.obj es) where
  begins := by cases es <;> exact ⟨'{', _, rfl, by decide, by decide⟩
  value {fuel rest} hfuel _ := by
    cases es with
    | nil =>
      obtain ⟨fuel, rfl⟩ : ∃ k, fuel = k + 1 :=
        Nat.exists_eq_add_of_le' (Nat.le_of_add_left_le hfuel)
      rw [print, List.cons_append, readValue, skipSpace_cons (by decide)]
      dsimp only
      rw [if_neg (by decide), if_pos rfl, List.singleton_append, skipSpace_cons (by decide)]
      rfl
    | cons e es =>
      obtain ⟨name, v⟩ := e
      have hv : ReadsAt depth v := h _ List.mem_cons_self
      have hes : ∀ e ∈ es, ReadsAt depth e.2 := fun e he => h e (List.mem_cons_of_mem _ he)
      simp only [print, List.length_cons, List.length_append] at hfuel
      obtain ⟨fuel, rfl⟩ := Nat.exists_eq_add_of_le' (Nat.le_of_add_left_le hfuel)
      have hlength : v.print.length < fuel := by omega
      have hfield := readField_of_readsAt name hv hlength (stops_printFields es rest)
      rw [print, List.cons_append, List.append_assoc, List.cons_append, List.append_assoc,
        readValue, skipSpace_cons (by decide)]
      dsimp only
      rw [if_neg (by decide), if_pos rfl, printString_append, skipSpace_cons (by decide)]
      dsimp only
      rw [if_neg (by decide), if_pos rfl, hfield]
      dsimp only [bind, Except.bind]
      rw [readFields_printFields hes (by omega)]
      dsimp only
      rw [ofFields, Fields.ofList_eq_of_perm hsorted (.refl _)]

/-- **A value is read back at a depth** if it is in order and fits into so many levels, and
its numbers read back. -/
theorem readsAt_of_fits (hfits : v.Fits depth) (horder : v.InOrder)
    (hnumbers : ∀ n : Number, Occurs n v → n.ReadsBack) : ReadsAt depth v := by
  induction hfits with
  | null => exact readsAt_null
  | bool b => exact readsAt_bool b
  | num n => exact readsAt_num (hnumbers n .num)
  | str s => exact readsAt_str s
  | arr inner ih =>
    cases horder with
    | arr hinner =>
      exact readsAt_arr fun v hv => ih v hv (hinner v hv) fun n hn => hnumbers n (.arr hv hn)
  | obj inner ih =>
    cases horder with
    | obj hsorted hinner =>
      exact readsAt_obj hsorted fun e he =>
        ih e he (hinner e he) fun n hn => hnumbers n (.obj he hn)

end Reader

/-! ## Values that are read back -/

/-- **A value that a reader can make**, and whose doubles read back. -/
structure Readable (depth : Nat) (v : Json) : Prop where
  /-- It is nested no deeper. -/
  fits : v.Fits depth
  /-- Its objects are in order. -/
  inOrder : v.InOrder
  /-- Its doubles read back. -/
  readsBack : ∀ x, Occurs (.real x) v → (Number.real x).ReadsBack

namespace Readable

variable {depth : Nat} {v : Json}

/-- **A readable value is read back.** -/
theorem readsAt (h : v.Readable depth) : Reader.ReadsAt depth v := by
  refine Reader.readsAt_of_fits h.fits h.inOrder fun n hn => ?_
  cases n with
  | integer i hi => exact Number.readsBack_integer hi
  | real x => exact h.readsBack x hn

/-- The fields of a readable object are readable. -/
theorem of_mem {es : Fields} (h : (Json.obj es).Readable (depth + 1)) :
    ∀ e ∈ es, e.2.Readable depth := by
  intro e he
  obtain ⟨hfits, hinOrder, hreadsBack⟩ := h
  cases hfits with
  | obj fits =>
    cases hinOrder with
    | obj sorted inner => exact ⟨fits e he, inner e he, fun x hx => hreadsBack x (.obj he hx)⟩

/-- A string is readable. -/
theorem str (s : String) : (Json.str s).Readable depth where
  fits := .str s
  inOrder := .str s
  readsBack _ h := by cases h

/-- A list is readable if its items are. -/
theorem arr {items : List Json} (h : ∀ v ∈ items, v.Readable depth) :
    (Json.arr items).Readable (depth + 1) where
  fits := .arr fun v hv => (h v hv).fits
  inOrder := .arr fun v hv => (h v hv).inOrder
  readsBack x hx := by
    obtain ⟨v, hv, hx⟩ := occurs_arr_iff.mp hx
    exact (h v hv).readsBack x hx

/-- An object is readable if the values that it is made of are. -/
theorem ofFields {entries : List (String × Json)} (h : ∀ e ∈ entries, e.2.Readable depth) :
    (Json.ofFields entries).Readable (depth + 1) where
  fits := .obj fun e he => (h e (Fields.mem_of_mem_ofList he)).fits
  inOrder := inOrder_ofFields fun e he => (h e he).inOrder
  readsBack x hx := by
    obtain ⟨e, he, hx⟩ := occurs_obj_iff.mp hx
    exact (h e (Fields.mem_of_mem_ofList he)).readsBack x hx

/-- **What is written is read back.** -/
theorem readChars_print (h : v.Readable Reader.greatestDepth) : readChars v.print = .ok v := by
  have hread := h.readsAt.value (Nat.le_succ v.print.length) Numeral.stops_nil
  rw [List.append_nil] at hread
  rw [readChars, hread]
  rfl

end Readable

/-- The same of a value that a reader can make, and whose doubles read back. -/
theorem readChars_print {v : Json} (hfits : v.Fits Reader.greatestDepth) (horder : v.InOrder)
    (hnumbers : ∀ x, Occurs (.real x) v → (Number.real x).ReadsBack) :
    readChars v.print = .ok v :=
  Readable.readChars_print ⟨hfits, horder, hnumbers⟩

end Colloquy.Json
