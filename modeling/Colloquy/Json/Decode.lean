import Colloquy.Json.Mismatch

/-!
# Decoding values of known kinds

A decoder takes a JSON value to a value of a domain type or says what is
wrong with it. Records are decoded in two passes. The first looks at the
fields one after the other, in the order the value has them, and stops at
the first that is wrong; a record may also be given as a list of its
fields' values in the order the record declares them. The second pass
takes the fields out by name. A needed field that is missing is therefore
reported only when nothing that is there is wrong.

A value inside a tagged record has been *set aside* before its kind was
known. It is decoded by the same rules but for three small freedoms, which
`aside` marks: a tag may be the number of its variant, a variant without
fields may carry an empty object, and a list that is too long for its
record is reported in other words.
-/

namespace Colloquy.Json

/-- **A decoder** of a domain type. -/
abbrev Decoder (α : Type) := Json → Except Mismatch α

namespace Decode

/-- A string. -/
def text : Decoder String
  | .str s => .ok s
  | v => notA "a string" v

/-- A truth value. -/
def flag : Decoder Bool
  | .bool b => .ok b
  | v => notA "a boolean" v

/-- **The range of a counter**: its name and the first value beyond. -/
structure Range where
  /-- How the range is named in reports. -/
  name : String
  /-- The first value too large. -/
  beyond : Nat

/-- Counters of thirty-two bits. -/
def Range.small : Range := ⟨"u32", 0x100000000⟩

/-- Counters of sixty-four bits. -/
def Range.large : Range := ⟨"u64", 0x10000000000000000⟩

/-- A counter from a number. -/
def countOfNumber (range : Range) (n : Number) : Except Mismatch Nat :=
  match n with
  | .integer i _ =>
    if 0 ≤ i ∧ i < range.beyond then .ok i.toNat
    else .error (.wrongValue n.described range.name)
  | .real _ => .error (.wrongKind n.described range.name)

/-- **A counter** within a range. -/
def count (range : Range) : Decoder Nat
  | .num n => countOfNumber range n
  | v => notA range.name v

/-- Any value. -/
def any : Decoder Json := .ok

/-- The fields of an object, whatever they are. -/
def fields : Decoder Fields
  | .obj fields => .ok fields
  | v => notA "a map" v

/-- A value or null. -/
def nullable {α : Type} (decode : Decoder α) : Decoder (Option α)
  | .null => .ok none
  | v => (decode v).map some

/-- **A list**, decoded item by item. -/
def list {α : Type} (decode : Decoder α) : Decoder (List α)
  | .arr items => items.mapM decode
  | v => notA "a sequence" v

/-- **A name out of several.** It may also be the only field of an object,
with nothing as its value. -/
def choice {α : Type} (aside : Bool) (known : List (String × α)) : Decoder α
  | .str s => pick s
  | .obj [(s, content)] => do
    let a ← pick s
    match content with
    | .null => .ok a
    | .obj [] => if aside then .ok a else notA "unit" content
    | _ => notA "unit" content
  | .obj fields => do
    .error (.wrongValue (described (.obj fields)) "map with a single key")
  | v => notA "string or map" v
where
  /-- The thing of a name. -/
  pick (s : String) : Except Mismatch α :=
    match known.lookup s with
    | some a => .ok a
    | none => .error (.unknownVariant s (known.map Prod.fst))

/-- **One field of a record**, as the first pass looks at it. -/
structure Rule where
  /-- The name of the field. -/
  name : String
  /-- Whether a value will do. -/
  accept : Json → Except Mismatch Unit
  /-- Whether the field may not be missing. -/
  needed : Bool

/-- A field that must be there. -/
def Rule.needs {α : Type} (name : String) (decode : Decoder α) : Rule :=
  ⟨name, fun v => (decode v).map fun _ => (), true⟩

/-- A field that may be missing. -/
def Rule.allows {α : Type} (name : String) (decode : Decoder α) : Rule :=
  ⟨name, fun v => (decode v).map fun _ => (), false⟩

/-- **A kind of record**: what it is called in reports, its fields in the
order they are declared, and whether others are refused. -/
structure Record where
  /-- What the record is called. -/
  title : String
  /-- Its fields. -/
  rules : List Rule
  /-- Whether unknown fields are refused. -/
  strict : Bool := false
  /-- Whether the value was set aside before its kind was known. -/
  aside : Bool := false

/-- So many elements, in words. -/
def elements (n : Nat) : String :=
  if n = 1 then "1 element" else s!"{n} elements"

namespace Record

/-- **The first pass over an object**: field by field in its order. -/
def acceptFields (r : Record) : Fields → Except Mismatch Unit
  | [] => .ok ()
  | (name, value) :: rest => do
    match r.rules.find? (·.name = name) with
    | some rule => rule.accept value
    | none =>
      if r.strict then .error (.unknownField name (r.rules.map Rule.name)) else .ok ()
    acceptFields r rest

/-- **The first pass over a list**: item by item, as long as there are
fields left. It returns the items with their names. -/
def acceptItems (r : Record) : Nat → List Rule → List Json → Except Mismatch Fields
  | _, [], [] => .ok []
  | n, [], items =>
    .error (.wrongLength (n + items.length)
      (if r.aside then elements n ++ " in sequence" else "fewer elements in array"))
  | n, rule :: rules, [] =>
    if rule.needed then
      .error (.wrongLength n (s!"{r.title} with {elements r.rules.length}"))
    else acceptItems r n rules []
  | n, rule :: rules, item :: items => do
    rule.accept item
    .ok ((rule.name, item) :: (← acceptItems r (n + 1) rules items))

/-- **The fields of a record**, each of them looked at. -/
def read (r : Record) : Decoder Fields
  | .obj fields => do
    r.acceptFields fields
    .ok fields
  | .arr items => r.acceptItems 0 r.rules items
  | v => notA r.title v

end Record

/-- A field that must be there. -/
def needed {α : Type} (fields : Fields) (name : String) (decode : Decoder α) :
    Except Mismatch α :=
  match fields.find? name with
  | some v => decode v
  | none => .error (.missingField name)

/-- A field that may be missing, and what stands for it then. -/
def withDefault {α : Type} (fields : Fields) (name : String) (default : α)
    (decode : Decoder α) : Except Mismatch α :=
  match fields.find? name with
  | some v => decode v
  | none => .ok default

/-- A field that may be missing or null. -/
def whenGiven {α : Type} (fields : Fields) (name : String) (decode : Decoder α) :
    Except Mismatch (Option α) :=
  withDefault fields name none (nullable decode)

/-- **The tag of a tagged record**: the name of its variant. Where the
record was set aside, the number of the variant will do as well. -/
def tag {α : Type} (aside : Bool) (known : List (String × α)) : Decoder α
  | .str s => choice.pick known s
  | .num (.integer i h) =>
    if aside && 0 ≤ i then
      match known[i.toNat]? with
      | some (_, a) => .ok a
      | none =>
        .error (.wrongValue (Number.integer i h).described
          s!"variant index 0 <= i < {known.length}")
    else notA "variant identifier" (.num (.integer i h))
  | v => notA "variant identifier" v

/-- **A tagged record**: the variant its field `type` names, and the other
fields, still to be decoded. As a list, the tag comes first. -/
def tagged {α : Type} (title : String) (aside : Bool) (known : List (String × α)) :
    Decoder (α × Json)
  | .obj fields => do
    match Fields.find? fields "type" with
    | some v => .ok (← tag aside known v, .obj (fields.filter (·.1 ≠ "type")))
    | none => .error (.missingField "type")
  | .arr [] => .error (.missingField "type")
  | .arr (v :: items) => do .ok (← tag aside known v, .arr items)
  | v => notA s!"internally tagged enum {title}" v

end Decode

end Colloquy.Json
