import Colloquy.Fence
import Mathlib.Tactic.SplitIfs

/-!
# What a reader makes

A reader makes a value of its parts, and every list or object it opens takes one of the
levels that it may open. A property of values and levels that goes from the parts to the
whole (`Reader.Closed`) therefore holds of whatever has been read, with all levels
(`Reader.Closed.of_readChars`).

What a reader does can be told from what it returns: which character it has found behind the
blanks, and what it has read with which of its functions behind that (`Reader.ScalarRead`,
`Reader.ValueRead`, `Reader.ItemsRead`, `Reader.FieldsRead`). Whatever is said about values that
have been read is said by these cases.

The four functions that read values call one another, so what each of them keeps is proved
for all of them at once (`Reader.Keeps`), by induction on their common fuel.
-/

namespace Colloquy.Json

namespace Reader

variable {cs rest : List Char} {v : Json} {depth : Nat}

/-- What has come of two steps has come of each. -/
theorem exists_of_bind_eq_ok {ε α β : Type} {x : Except ε α} {f : α → Except ε β} {b : β}
    (h : (x >>= f) = .ok b) : ∃ a, x = .ok a ∧ f a = .ok b := by
  cases x with
  | error e => cases h
  | ok a => exact ⟨a, rfl, h⟩

/-! ## What a reader does -/

theorem eq_append_of_readWord {word : List Char} (h : readWord word cs = .ok rest) :
    cs = word ++ rest := by
  induction word generalizing cs with
  | nil =>
    cases h
    rfl
  | cons w word ih =>
    cases cs with
    | nil => cases h
    | cons c cs =>
      rw [readWord] at h
      split_ifs at h with hc
      rw [hc, ih h, List.cons_append]

/-- **What has been read as a scalar.** -/
inductive ScalarRead : List Char → Json → List Char → Prop
  /-- The word for nothing. -/
  | null {rest : List Char} : ScalarRead (['n', 'u', 'l', 'l'] ++ rest) .null rest
  /-- The word for what is so. -/
  | yes {rest : List Char} : ScalarRead (['t', 'r', 'u', 'e'] ++ rest) (.bool true) rest
  /-- The word for what is not. -/
  | no {rest : List Char} : ScalarRead (['f', 'a', 'l', 's', 'e'] ++ rest) (.bool false) rest
  /-- A string, behind its quotation mark. -/
  | str {s : String} {behind rest : List Char} (read : readString behind = .ok (s, rest)) :
      ScalarRead ('"' :: behind) (.str s) rest
  /-- A number. -/
  | num {n : Number} {cs rest : List Char} (read : Numeral.read cs = .ok (n, rest)) :
      ScalarRead cs (.num n) rest

theorem scalarRead (h : readScalar cs = .ok (v, rest)) : ScalarRead cs v rest := by
  unfold readScalar at h
  split at h
  · cases h
  · split_ifs at h with hn ht hf hmark
    · obtain ⟨_, hword, h⟩ := exists_of_bind_eq_ok h
      cases h
      rw [hn, eq_append_of_readWord hword]
      exact .null
    · obtain ⟨_, hword, h⟩ := exists_of_bind_eq_ok h
      cases h
      rw [ht, eq_append_of_readWord hword]
      exact .yes
    · obtain ⟨_, hword, h⟩ := exists_of_bind_eq_ok h
      cases h
      rw [hf, eq_append_of_readWord hword]
      exact .no
    · obtain ⟨_, hstring, h⟩ := exists_of_bind_eq_ok h
      cases h
      rw [hmark]
      exact .str hstring
    · obtain ⟨_, hnumber, h⟩ := exists_of_bind_eq_ok h
      cases h
      exact .num hnumber

/-- **What has been read as a value**, with so much fuel for its parts. -/
inductive ValueRead (fuel : Nat) : Nat → List Char → Json → List Char → Prop
  /-- A list without items. -/
  | emptyList {depth : Nat} {cs behind rest : List Char} (opens : skipSpace cs = '[' :: behind)
      (closes : skipSpace behind = ']' :: rest) : ValueRead fuel (depth + 1) cs (.arr []) rest
  /-- A list with a first item. -/
  | list {depth : Nat} {cs behind first mid rest : List Char} {x : Json} {xs : List Json}
      (opens : skipSpace cs = '[' :: behind) (blanks : skipSpace behind = first)
      (item : readValue fuel depth first = .ok (x, mid))
      (further : readItems fuel depth mid = .ok (xs, rest)) :
      ValueRead fuel (depth + 1) cs (.arr (x :: xs)) rest
  /-- An object without fields. -/
  | emptyObject {depth : Nat} {cs behind rest : List Char} (opens : skipSpace cs = '{' :: behind)
      (closes : skipSpace behind = '}' :: rest) : ValueRead fuel (depth + 1) cs (.obj []) rest
  /-- An object with a first field. -/
  | object {depth : Nat} {cs behind first mid rest : List Char} {e : String × Json}
      {es : List (String × Json)} (opens : skipSpace cs = '{' :: behind)
      (blanks : skipSpace behind = '"' :: first)
      (field : readField fuel depth first = .ok (e, mid))
      (further : readFields fuel depth mid = .ok (es, rest)) :
      ValueRead fuel (depth + 1) cs (.ofFields (e :: es)) rest
  /-- Neither list nor object. -/
  | scalar {depth : Nat} {cs behind rest : List Char} {v : Json} (blanks : skipSpace cs = behind)
      (read : ScalarRead behind v rest) : ValueRead fuel depth cs v rest

theorem valueRead {fuel : Nat} (h : readValue (fuel + 1) depth cs = .ok (v, rest)) :
    ValueRead fuel depth cs v rest := by
  rw [readValue] at h
  split at h
  · cases h
  · next hskip =>
    split_ifs at h with hlist hobject
    · rw [hlist] at hskip
      split at h
      · cases h
      · split at h
        · cases h
        · next hskip' =>
          split_ifs at h with hclose
          · cases h
            rw [hclose] at hskip'
            exact .emptyList hskip hskip'
          · obtain ⟨⟨x, _⟩, hx, h⟩ := exists_of_bind_eq_ok h
            obtain ⟨⟨xs, _⟩, hxs, h⟩ := exists_of_bind_eq_ok h
            cases h
            exact .list hskip hskip' hx hxs
    · rw [hobject] at hskip
      split at h
      · cases h
      · split at h
        · cases h
        · next hskip' =>
          split_ifs at h with hclose hmark
          · cases h
            rw [hclose] at hskip'
            exact .emptyObject hskip hskip'
          · obtain ⟨⟨e, _⟩, he, h⟩ := exists_of_bind_eq_ok h
            obtain ⟨⟨es, _⟩, hes, h⟩ := exists_of_bind_eq_ok h
            cases h
            rw [hmark] at hskip'
            exact .object hskip hskip' he hes
    · exact .scalar hskip (scalarRead h)

/-- **What has been read as the further items of a list.** -/
inductive ItemsRead (fuel depth : Nat) : List Char → List Json → List Char → Prop
  /-- None. -/
  | close {cs rest : List Char} (closes : skipSpace cs = ']' :: rest) :
      ItemsRead fuel depth cs [] rest
  /-- One and more of them. -/
  | item {cs behind first mid rest : List Char} {x : Json} {xs : List Json}
      (comma : skipSpace cs = ',' :: behind) (blanks : skipSpace behind = first)
      (item : readValue fuel depth first = .ok (x, mid))
      (further : readItems fuel depth mid = .ok (xs, rest)) :
      ItemsRead fuel depth cs (x :: xs) rest

theorem itemsRead {fuel : Nat} {vs : List Json}
    (h : readItems (fuel + 1) depth cs = .ok (vs, rest)) : ItemsRead fuel depth cs vs rest := by
  rw [readItems] at h
  split at h
  · cases h
  · next hskip =>
    split_ifs at h with hclose hcomma
    · cases h
      rw [hclose] at hskip
      exact .close hskip
    · rw [hcomma] at hskip
      split at h
      · cases h
      · next hskip' =>
        split_ifs at h
        obtain ⟨⟨x, _⟩, hx, h⟩ := exists_of_bind_eq_ok h
        obtain ⟨⟨xs, _⟩, hxs, h⟩ := exists_of_bind_eq_ok h
        cases h
        exact .item hskip hskip' hx hxs

/-- A field is a string, a colon and a value. -/
theorem fieldRead {fuel : Nat} {e : String × Json}
    (h : readField (fuel + 1) depth cs = .ok (e, rest)) :
    ∃ behind value, readString cs = .ok (e.1, behind) ∧ readColon behind = .ok value
      ∧ readValue fuel depth value = .ok (e.2, rest) := by
  rw [readField] at h
  obtain ⟨⟨name, behind⟩, hname, h⟩ := exists_of_bind_eq_ok h
  obtain ⟨value, hcolon, h⟩ := exists_of_bind_eq_ok h
  obtain ⟨⟨v, _⟩, hvalue, h⟩ := exists_of_bind_eq_ok h
  cases h
  exact ⟨behind, value, hname, hcolon, hvalue⟩

/-- **What has been read as the further fields of an object.** -/
inductive FieldsRead (fuel depth : Nat) :
    List Char → List (String × Json) → List Char → Prop
  /-- None. -/
  | close {cs rest : List Char} (closes : skipSpace cs = '}' :: rest) :
      FieldsRead fuel depth cs [] rest
  /-- One and more of them. -/
  | field {cs behind first mid rest : List Char} {e : String × Json} {es : List (String × Json)}
      (comma : skipSpace cs = ',' :: behind) (blanks : skipSpace behind = '"' :: first)
      (field : readField fuel depth first = .ok (e, mid))
      (further : readFields fuel depth mid = .ok (es, rest)) :
      FieldsRead fuel depth cs (e :: es) rest

theorem fieldsRead {fuel : Nat} {es : List (String × Json)}
    (h : readFields (fuel + 1) depth cs = .ok (es, rest)) : FieldsRead fuel depth cs es rest := by
  rw [readFields] at h
  split at h
  · cases h
  · next hskip =>
    split_ifs at h with hclose hcomma
    · cases h
      rw [hclose] at hskip
      exact .close hskip
    · rw [hcomma] at hskip
      split at h
      · cases h
      · next hskip' =>
        split_ifs at h with hclose' hmark
        obtain ⟨⟨e, _⟩, he, h⟩ := exists_of_bind_eq_ok h
        obtain ⟨⟨es, _⟩, hes, h⟩ := exists_of_bind_eq_ok h
        cases h
        rw [hmark] at hskip'
        exact .field hskip hskip' he hes

/-! ## What it keeps -/

/-- **A property goes from the parts of a value to the whole**, where lists and objects
take a level. -/
structure Closed (P : Nat → Json → Prop) : Prop where
  /-- The null value has it. -/
  null : ∀ {depth}, P depth .null
  /-- Truth values have it. -/
  bool : ∀ {depth} b, P depth (.bool b)
  /-- Numbers have it. -/
  num : ∀ {depth} n, P depth (.num n)
  /-- Strings have it. -/
  str : ∀ {depth} s, P depth (.str s)
  /-- A list has it if its items do. -/
  arr : ∀ {depth vs}, (∀ v ∈ vs, P depth v) → P (depth + 1) (.arr vs)
  /-- An object has it if the values of the fields it is made of do. -/
  obj : ∀ {depth es}, (∀ e ∈ es, P depth e.2) → P (depth + 1) (.ofFields es)

variable {P : Nat → Json → Prop}

/-- Scalars have a property that goes from parts to wholes. -/
theorem Closed.of_scalarRead (hP : Closed P) (h : ScalarRead cs v rest) : P depth v := by
  cases h with
  | null => exact hP.null
  | yes => exact hP.bool true
  | no => exact hP.bool false
  | @str s => exact hP.str s
  | @num n => exact hP.num n

/-- **The reader keeps a property with so much fuel**: whatever it reads has it. -/
structure Keeps (P : Nat → Json → Prop) (fuel : Nat) : Prop where
  /-- A value. -/
  value : ∀ {depth cs v rest}, readValue fuel depth cs = .ok (v, rest) → P depth v
  /-- The further items of a list. -/
  items : ∀ {depth cs vs rest}, readItems fuel depth cs = .ok (vs, rest) → ∀ v ∈ vs, P depth v
  /-- A field. -/
  field : ∀ {depth cs e rest}, readField fuel depth cs = .ok (e, rest) → P depth e.2
  /-- The further fields of an object. -/
  fields : ∀ {depth cs es rest}, readFields fuel depth cs = .ok (es, rest) →
    ∀ e ∈ es, P depth e.2

variable {fuel : Nat}

theorem Keeps.readValue (h : Keeps P fuel) (hP : Closed P)
    (hread : readValue (fuel + 1) depth cs = .ok (v, rest)) : P depth v := by
  cases valueRead hread with
  | emptyList => exact hP.arr nofun
  | list _ _ item further => exact hP.arr (List.forall_mem_cons.mpr ⟨h.value item, h.items further⟩)
  | emptyObject => exact hP.obj (List.forall_mem_nil fun e : String × Json => P _ e.2)
  | object _ _ field further =>
    exact hP.obj (List.forall_mem_cons.mpr ⟨h.field field, h.fields further⟩)
  | scalar _ read => exact hP.of_scalarRead read

theorem Keeps.readItems (h : Keeps P fuel) {vs : List Json}
    (hread : readItems (fuel + 1) depth cs = .ok (vs, rest)) : ∀ v ∈ vs, P depth v := by
  cases itemsRead hread with
  | close => exact nofun
  | item _ _ item further => exact List.forall_mem_cons.mpr ⟨h.value item, h.items further⟩

theorem Keeps.readField (h : Keeps P fuel) {e : String × Json}
    (hread : readField (fuel + 1) depth cs = .ok (e, rest)) : P depth e.2 := by
  obtain ⟨_, _, -, -, hvalue⟩ := fieldRead hread
  exact h.value hvalue

theorem Keeps.readFields (h : Keeps P fuel) {es : List (String × Json)}
    (hread : readFields (fuel + 1) depth cs = .ok (es, rest)) : ∀ e ∈ es, P depth e.2 := by
  cases fieldsRead hread with
  | close => exact nofun
  | field _ _ field further => exact List.forall_mem_cons.mpr ⟨h.field field, h.fields further⟩

/-- **The reader keeps a property** that goes from parts to wholes, with any fuel. -/
theorem Closed.keeps (hP : Closed P) (fuel : Nat) : Keeps P fuel := by
  induction fuel with
  | zero =>
    exact {
      value := fun h => by simp [readValue] at h
      items := fun h => by simp [readItems] at h
      field := fun h => by simp [readField] at h
      fields := fun h => by simp [readFields] at h }
  | succ fuel ih => exact ⟨ih.readValue hP, ih.readItems, ih.readField, ih.readFields⟩

/-- **What has been read has such a property**, with as many levels as there are. -/
theorem Closed.of_readChars (hP : Closed P) (h : Json.readChars cs = .ok v) :
    P greatestDepth v := by
  obtain ⟨⟨v', _⟩, hread, h⟩ := exists_of_bind_eq_ok h
  obtain ⟨_, -, h⟩ := exists_of_bind_eq_ok h
  cases h
  exact (hP.keeps _).value hread

/-- So has an answer that has been read, with its fences or without. -/
theorem Closed.of_readFenced (hP : Closed P) {s : String} (h : Fence.readFenced s = .ok v) :
    P greatestDepth v := by
  unfold Fence.readFenced at h
  split at h
  · rename_i v' hread
    cases h
    exact hP.of_readChars hread
  · unfold Fence.readWorded at h
    cases hread : Json.readChars (Fence.unfence s.toList) with
    | error fault => simp [hread, Except.mapError] at h
    | ok v' =>
      simp only [hread, Except.mapError] at h
      cases h
      exact hP.of_readChars hread

end Reader

end Colloquy.Json
