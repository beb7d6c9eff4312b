import Colloquy.Decimal.Binary

/-!
# JSON values

The values tools, models and files exchange. A number is an integer in
the range of sixty-four bits, signed or unsigned, or a finite double: an
integer outside that range becomes the nearest double when it is read, and
infinities have no JSON form.

The fields of an object are kept in the order of their names, each name
once. `Fields.insert` keeps that order and replaces a field that is
already there; whatever is built from it (`Fields.ofList`, where the last
of several equal names wins) is in order too. Names are compared
character by character, which orders them as their bytes do. That order is
seen wherever an object becomes text or its fields are gone through.
-/

namespace Colloquy

/-- **A JSON number.** -/
inductive Json.Number where
  /-- An integer of sixty-four bits, signed or unsigned. -/
  | integer (value : Int) (fits : -0x8000000000000000 ≤ value ∧ value < 0x10000000000000000)
  /-- A finite double. -/
  | real (value : Decimal.Double)
deriving DecidableEq, Repr

/-- **A JSON value.** -/
inductive Json where
  /-- The null value. -/
  | null
  /-- A truth value. -/
  | bool (value : Bool)
  /-- A number. -/
  | num (value : Json.Number)
  /-- A string. -/
  | str (value : String)
  /-- A list of values. -/
  | arr (items : List Json)
  /-- Named values, in the order of their names. -/
  | obj (fields : List (String × Json))
deriving Repr, BEq, Inhabited

namespace Json

/-- **The fields of an object**, in the order of their names. -/
abbrev Fields := List (String × Json)

namespace Number

/-- The number an integer is: itself where it fits sixty-four bits, else
the nearest double, if there is a finite one. -/
def ofInt? (i : Int) : Option Number :=
  if h : -0x8000000000000000 ≤ i ∧ i < 0x10000000000000000 then some (.integer i h)
  else
    (Decimal.Finite.nearest? Decimal.doubleFormat (i < 0) i.natAbs 1).map .real

/-- The value of an unsigned integer. -/
def toNat? : Number → Option Nat
  | .integer i _ => if 0 ≤ i then some i.toNat else none
  | .real _ => none

end Number

/-- A counter as a JSON number. Counters fit sixty-four bits; one that did
not would be written as the greatest that does. -/
def ofNat (n : Nat) : Json :=
  .num (.integer (min n 0xFFFFFFFFFFFFFFFF : Nat) (by omega))

/-- A string where there is one, else null. -/
def ofString? : Option String → Json
  | some s => .str s
  | none => .null

/-- A counter where there is one, else null. -/
def ofNat? : Option Nat → Json
  | some n => ofNat n
  | none => .null

namespace Fields

/-- The field of a name. -/
def find? (fields : Fields) (name : String) : Option Json :=
  match fields with
  | [] => none
  | (n, v) :: rest => if n = name then some v else find? rest name

/-- **Setting a field**: one of that name is replaced, otherwise the new
field goes to its place in the order of names. -/
def insert (fields : Fields) (name : String) (value : Json) : Fields :=
  match fields with
  | [] => [(name, value)]
  | (n, v) :: rest =>
    if name = n then (name, value) :: rest
    else if name < n then (name, value) :: (n, v) :: rest
    else (n, v) :: insert rest name value

/-- **Fields in the order of their names**, from fields in any order; of
several with one name the last wins. -/
def ofList (entries : List (String × Json)) : Fields :=
  entries.foldl (fun fields e => fields.insert e.1 e.2) []

/-- The names of the fields. -/
def names (fields : Fields) : List String :=
  fields.map Prod.fst

@[simp] theorem find?_nil (name : String) : find? [] name = none := rfl

/-- **A field that was set is found.** -/
@[simp] theorem find?_insert_self (fields : Fields) (name : String) (value : Json) :
    (fields.insert name value).find? name = some value := by
  induction fields with
  | nil => simp [insert, find?]
  | cons e rest ih =>
    obtain ⟨n, v⟩ := e
    simp only [insert]
    split
    · simp [find?]
    · rename_i hn
      split
      · simp [find?]
      · simp [find?, Ne.symm hn, ih]

/-- **Setting one field leaves the others alone.** -/
theorem find?_insert_of_ne (fields : Fields) {name other : String} (value : Json)
    (h : other ≠ name) : (fields.insert name value).find? other = fields.find? other := by
  induction fields with
  | nil => simp [insert, find?, Ne.symm h]
  | cons e rest ih =>
    obtain ⟨n, v⟩ := e
    simp only [insert]
    split
    · rename_i hn
      subst hn
      simp [find?, Ne.symm h]
    · split
      · simp [find?, Ne.symm h]
      · simp [find?, ih]

end Fields

/-- An object with the given fields, whatever order they are given in. -/
def ofFields (entries : List (String × Json)) : Json :=
  .obj (Fields.ofList entries)

/-- The field of a name, if the value is an object that has one. -/
def field? : Json → String → Option Json
  | .obj fields, name => Fields.find? fields name
  | _, _ => none

/-- The string a value is. -/
def string? : Json → Option String
  | .str s => some s
  | _ => none

/-- The truth value a value is. -/
def bool? : Json → Option Bool
  | .bool b => some b
  | _ => none

/-- The unsigned integer a value is. A double is none, even a whole one. -/
def nat? : Json → Option Nat
  | .num n => n.toNat?
  | _ => none

/-- The fields of an object. -/
def fields? : Json → Option Fields
  | .obj fields => some fields
  | _ => none

end Json

end Colloquy
