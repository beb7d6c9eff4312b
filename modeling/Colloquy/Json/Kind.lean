import Colloquy.Json.Decode
import Colloquy.Json.Skipper

/-!
# Kinds of settings

A kind of setting can be written into a document, decoded from a JSON
value, and read from a text. Reading a text directly is not the same as
reading a value from it and decoding that: the text is taken as it comes,
so that the first thing wrong with it is reported, be it a fault of the
text or a value of the wrong kind, and a field that comes twice is wrong
as well. Values of fields that no one knows are passed over.

A record is a default and a list of settings, each of which knows its
name and its place in the record; whatever is given replaces the default.
-/

namespace Colloquy.Json

/-- **Why a text cannot be read.** -/
inductive Complaint where
  /-- Something is wrong with the text. -/
  | fault (fault : Fault)
  /-- A value is of the wrong kind. -/
  | mismatch (mismatch : Mismatch)
deriving DecidableEq, Repr

/-- The report of a complaint about a text. -/
def Complaint.message (text : List Char) : Complaint → String
  | .fault f => f.message text
  | .mismatch m => m.message

/-- **Reading from the beginning of a text.** -/
abbrev TextReader (α : Type) := List Char → Except Complaint (α × List Char)

/-- **A kind of setting.** -/
structure Kind (α : Type) where
  /-- How a setting is written. -/
  outline : α → Outline
  /-- How it is decoded. -/
  ofJson : Decoder α
  /-- How it is read. -/
  ofText : TextReader α

namespace Kind

open Reader (skipSpace readWord readString readColon readScalar)

/-- What a reader of JSON text says. -/
def liftFault {α : Type} (r : Except Fault α) : Except Complaint α :=
  r.mapError .fault

/-- What a decoder says. -/
def liftMismatch {α : Type} (r : Except Mismatch α) : Except Complaint α :=
  r.mapError .mismatch

/-- **A value that is not of the wanted kind**, at its first character. Of
a list or an object nothing more is read. -/
def refuse {α : Type} (wanted : String) (cs : List Char) : Except Complaint α :=
  match cs with
  | '[' :: _ => liftMismatch (notA wanted (.arr []))
  | '{' :: _ => liftMismatch (notA wanted (.obj []))
  | _ => do
    let (v, _) ← liftFault (readScalar cs)
    liftMismatch (notA wanted v)

/-- Strings. -/
def text : Kind String where
  outline s := .scalar (printString s)
  ofJson := Decode.text
  ofText cs :=
    match skipSpace cs with
    | '"' :: rest => liftFault (readString rest)
    | rest => refuse "a string" rest

/-- The text of a truth value. -/
def printFlag (b : Bool) : List Char :=
  if b then ['t', 'r', 'u', 'e'] else ['f', 'a', 'l', 's', 'e']

/-- Truth values. -/
def flag : Kind Bool where
  outline b := .scalar (printFlag b)
  ofJson := Decode.flag
  ofText cs :=
    match skipSpace cs with
    | 't' :: rest => do .ok (true, ← liftFault (readWord ['r', 'u', 'e'] rest))
    | 'f' :: rest => do .ok (false, ← liftFault (readWord ['a', 'l', 's', 'e'] rest))
    | rest => refuse "a boolean" rest

/-- Whether a number begins here. -/
def atNumber (cs : List Char) : Bool :=
  cs.head?.any fun c => c = '-' || Decimal.isDigit c

/-- A number, or what is wanted in its place. -/
def readNumber {α : Type} (wanted : String) (ofNumber : Number → Except Mismatch α) :
    TextReader α := fun cs =>
  let rest := skipSpace cs
  if atNumber rest then do
    let (n, rest) ← liftFault (Numeral.read rest)
    .ok (← liftMismatch (ofNumber n), rest)
  else refuse wanted rest

/-- Counters within a range. -/
def count (range : Decode.Range) : Kind Nat where
  outline n := .scalar (Decimal.digits n)
  ofJson := Decode.count range
  ofText := readNumber range.name (Decode.countOfNumber range)

open Decimal (Single Extended Finite singleFormat)

/-- The number of four bytes nearest to a JSON number. -/
def singleOfNumber : Number → Single
  | .integer i _ => Extended.nearest singleFormat (i < 0) i.natAbs 1
  | .real x =>
    Extended.nearest singleFormat x.negative x.numerator x.denominator

/-- Numbers of four bytes. Special values have no JSON form. -/
def single : Kind Single where
  outline x :=
    .scalar <|
      match x with
      | .finite y => singleLayout.text y
      | _ => ['n', 'u', 'l', 'l']
  ofJson v :=
    match v with
    | .num n => .ok (singleOfNumber n)
    | _ => notA "f32" v
  ofText := readNumber "f32" fun n => .ok (singleOfNumber n)

/-- A setting or null. -/
def nullable {α : Type} (k : Kind α) : Kind (Option α) where
  outline a :=
    match a with
    | some a => k.outline a
    | none => .scalar ['n', 'u', 'l', 'l']
  ofJson := Decode.nullable k.ofJson
  ofText cs :=
    match skipSpace cs with
    | 'n' :: rest => do .ok (none, ← liftFault (readWord ['u', 'l', 'l'] rest))
    | rest => do
      let (a, rest) ← k.ofText rest
      .ok (some a, rest)

/-- **Whether a further item follows in a list**, and the text at it: none
at the closing bracket. -/
def nextItem? (first : Bool) (cs : List Char) : Except Fault (Option (List Char)) :=
  match skipSpace cs with
  | [] => .error (.before .unfinishedList [])
  | c :: rest =>
    if c = ']' then .ok none
    else if first then .ok (some (c :: rest))
    else if c = ',' then
      match skipSpace rest with
      | [] => .error (.before .unfinishedValue [])
      | d :: after =>
        if d = ']' then .error (.at .trailingComma (d :: after)) else .ok (some (d :: after))
    else .error (.at .expectedCommaOrBracket (c :: rest))

/-- The items of a list, up to its closing bracket. -/
def readItems {α : Type} (k : Kind α) : Nat → Bool → TextReader (List α)
  | 0, _, cs => liftFault (.error (.at .recursionLimit cs))
  | fuel + 1, first, cs => do
    match ← liftFault (nextItem? first cs) with
    | none => .ok ([], (skipSpace cs).drop 1)
    | some rest =>
      let (a, rest) ← k.ofText rest
      let (as, rest) ← readItems k fuel false rest
      .ok (a :: as, rest)

/-- Lists. -/
def list {α : Type} (k : Kind α) : Kind (List α) where
  outline as := .list (as.map k.outline)
  ofJson := Decode.list k.ofJson
  ofText cs :=
    match skipSpace cs with
    | '[' :: rest => readItems k (rest.length + 1) true rest
    | rest => refuse "a sequence" rest

/-- The nothing that a name may carry. -/
def readNothing (cs : List Char) : Except Complaint (List Char) :=
  match skipSpace cs with
  | 'n' :: rest => liftFault (readWord ['u', 'l', 'l'] rest)
  | [] => liftFault (.error (.before .unfinishedValue []))
  | rest => refuse "unit" rest

/-- **A name out of several**, behind its quotation mark. -/
def readName {α : Type} (known : List (String × α)) : TextReader α := fun cs => do
  let (s, rest) ← liftFault (readString cs)
  .ok (← liftMismatch (Decode.choice.pick known s), rest)

/-- **The only field of an object**, behind the opening brace: a name out
of several, and nothing for its value. -/
def readOnlyField {α : Type} (known : List (String × α)) : TextReader α := fun cs =>
  match skipSpace cs with
  | [] => liftFault (.error (.before .unfinishedObject []))
  | '"' :: rest => do
    let (a, rest) ← readName known rest
    let rest ← readNothing (← liftFault (readColon rest))
    match skipSpace rest with
    | '}' :: after => .ok (a, after)
    | [] => liftFault (.error (.before .unfinishedObject []))
    | other => liftFault (.error (.before .expectedValue other))
  | c :: rest =>
    liftFault
      (.error (.at (if c = '}' then .expectedValue else .keyMustBeString) (c :: rest)))

/-- **Names out of several.** In a text, whatever is neither a string nor
an object is not even read. -/
def choice {α : Type} (known : List (String × α)) (name : α → String) : Kind α where
  outline a := .scalar (printString (name a))
  ofJson := Decode.choice false known
  ofText cs :=
    match skipSpace cs with
    | [] => liftFault (.error (.before .unfinishedValue []))
    | '"' :: rest => readName known rest
    | '{' :: rest => readOnlyField known rest
    | rest => liftFault (.error (.at .expectedValue rest))

end Kind

/-- **A setting of a record**: its name, and how the record is written,
decoded and read at this place. -/
structure Setting (σ : Type) where
  /-- The name. -/
  name : String
  /-- How the setting is written. -/
  outline : σ → Outline
  /-- A record with the setting decoded. -/
  ofJson : Json → σ → Except Mismatch σ
  /-- A record with the setting read. -/
  ofText : σ → TextReader σ

/-- A setting of a kind, at a place of a record. -/
def Kind.setting {α σ : Type} (k : Kind α) (name : String) (get : σ → α) (set : α → σ → σ) :
    Setting σ where
  name := name
  outline s := k.outline (get s)
  ofJson v s := (k.ofJson v).map fun a => set a s
  ofText s cs := (k.ofText cs).map fun r => (set r.1 s, r.2)

namespace Setting

open Reader (skipSpace readString readColon)
open Kind (liftFault liftMismatch nextItem? refuse)

variable {σ : Type}

/-- The setting of a name. -/
def named? (settings : List (Setting σ)) (name : String) : Option (Setting σ) :=
  settings.find? fun s => s.name == name

/-- **A record decoded from fields**, in their order. -/
def ofFields (settings : List (Setting σ)) : Fields → σ → Except Mismatch σ
  | [], s => .ok s
  | (name, v) :: rest, s => do
    match named? settings name with
    | some setting => ofFields settings rest (← setting.ofJson v s)
    | none => ofFields settings rest s

/-- **A record decoded from a list**: the values of its settings in the
order they are declared. -/
def ofItems (all : Nat) : List (Setting σ) → List Json → σ → Except Mismatch σ
  | _, [], s => .ok s
  | [], _ :: rest, _ =>
    .error (.wrongLength (all + rest.length + 1) "fewer elements in array")
  | setting :: settings, v :: rest, s => do ofItems all settings rest (← setting.ofJson v s)

/-- What is behind the last setting that a list may hold. -/
def readEnd (cs : List Char) : Except Fault (List Char) :=
  match skipSpace cs with
  | [] => .error (.before .unfinishedList [])
  | c :: rest =>
    if c = ']' then .ok rest
    else if c = ',' then
      match skipSpace rest with
      | [] => .error (.before .trailingCharacters [])
      | d :: after =>
        .error (.at (if d = ']' then .trailingComma else .trailingCharacters) (d :: after))
    else .error (.at .trailingCharacters (c :: rest))

/-- **A record read from a list.** -/
def readList : List (Setting σ) → Bool → σ → TextReader σ
  | [], _, s, cs => do .ok (s, ← liftFault (readEnd cs))
  | setting :: settings, first, s, cs => do
    match ← liftFault (nextItem? first cs) with
    | none => .ok (s, (skipSpace cs).drop 1)
    | some rest =>
      let (s, rest) ← setting.ofText s rest
      readList settings false s rest

/-- **Whether a further field follows in an object**, and the text behind
the quotation mark of its name: none at the closing brace. -/
def nextName? (first : Bool) (cs : List Char) : Except Fault (Option (List Char)) :=
  match skipSpace cs with
  | [] => .error (.before .unfinishedObject [])
  | c :: rest =>
    if c = '}' then .ok none
    else if first then
      if c = '"' then .ok (some rest) else .error (.at .keyMustBeString (c :: rest))
    else if c = ',' then
      match skipSpace rest with
      | [] => .error (.before .unfinishedValue [])
      | d :: after =>
        if d = '"' then .ok (some after)
        else .error (.at (if d = '}' then .trailingComma else .keyMustBeString) (d :: after))
    else .error (.at .expectedCommaOrBrace (c :: rest))

/-- **A record read from the fields of an object**, given the names that
have been there. -/
def readFields (settings : List (Setting σ)) : Nat → List String → Bool → σ → TextReader σ
  | 0, _, _, _, cs => liftFault (.error (.at .recursionLimit cs))
  | fuel + 1, seen, first, s, cs => do
    match ← liftFault (nextName? first cs) with
    | none => .ok (s, (skipSpace cs).drop 1)
    | some rest =>
      let (name, rest) ← liftFault (readString rest)
      match named? settings name with
      | none =>
        let rest ← liftFault ((readColon rest).bind skip)
        readFields settings fuel seen false s rest
      | some setting =>
        if seen.contains name then .error (.mismatch (.duplicateField name))
        else
          let (s, rest) ← setting.ofText s (← liftFault (readColon rest))
          readFields settings fuel (name :: seen) false s rest

/-- **Records** of settings with a default. -/
def record (title : String) (default : σ) (settings : List (Setting σ)) : Kind σ where
  outline s := .record (settings.map fun setting => (setting.name, setting.outline s))
  ofJson v :=
    match v with
    | .obj fields => ofFields settings fields default
    | .arr items => ofItems settings.length settings items default
    | _ => notA title v
  ofText cs :=
    match skipSpace cs with
    | '{' :: rest => readFields settings (rest.length + 1) [] true default rest
    | '[' :: rest => readList settings true default rest
    | rest => refuse title rest

end Setting

/-- **Reading a text** that is exactly one setting. -/
def Kind.readAll {α : Type} (k : Kind α) (text : String) : Except Complaint α := do
  let (a, rest) ← k.ofText text.toList
  liftFault (Reader.readEnd rest)
  .ok a

end Colloquy.Json
