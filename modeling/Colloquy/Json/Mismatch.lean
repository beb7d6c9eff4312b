import Colloquy.Json.Printer
import Colloquy.Text.Quoted

/-!
# Values of the wrong kind

What is reported when a well-formed JSON value is not of the kind that is
wanted. The report names what was found and what would have been right,
never where.
-/

namespace Colloquy.Json

/-- **What is wrong with a value.** -/
inductive Mismatch where
  /-- A value of one kind where another is wanted. -/
  | wrongKind (found wanted : String)
  /-- A value of the right kind that cannot be used. -/
  | wrongValue (found wanted : String)
  /-- A list with the wrong number of items. -/
  | wrongLength (length : Nat) (wanted : String)
  /-- A name that is none of those a choice is between. -/
  | unknownVariant (name : String) (known : List String)
  /-- A field that a record does not have. -/
  | unknownField (name : String) (known : List String)
  /-- A field that is not there. -/
  | missingField (name : String)
  /-- A field that is there twice. -/
  | duplicateField (name : String)
deriving DecidableEq, Repr

/-- A name in back quotes. -/
def ticked (name : String) : String :=
  "`" ++ name ++ "`"

/-- What would have been right, given the known names. -/
def oneOf : List String → String
  | [] => "there are none"
  | [a] => s!"expected {ticked a}"
  | [a, b] => s!"expected {ticked a} or {ticked b}"
  | names => "expected one of " ++ ", ".intercalate (names.map ticked)

/-- **The report of a mismatch.** -/
def Mismatch.message : Mismatch → String
  | .wrongKind found wanted => s!"invalid type: {found}, expected {wanted}"
  | .wrongValue found wanted => s!"invalid value: {found}, expected {wanted}"
  | .wrongLength length wanted => s!"invalid length {length}, expected {wanted}"
  | .unknownVariant name known => s!"unknown variant {ticked name}, {oneOf known}"
  | .unknownField name known => s!"unknown field {ticked name}, {oneOf known}"
  | .missingField name => s!"missing field {ticked name}"
  | .duplicateField name => s!"duplicate field {ticked name}"

/-- How a number is named in a report. -/
def Number.described (n : Number) : String :=
  let text := ticked (String.ofList n.print)
  match n with
  | .integer _ _ => "integer " ++ text
  | .real _ => "floating point " ++ text

/-- How a value is named in a report. -/
def described : Json → String
  | .null => "null"
  | .bool b => "boolean " ++ ticked (toString b)
  | .num n => n.described
  | .str s => "string " ++ Text.quoted s
  | .arr _ => "sequence"
  | .obj _ => "map"

/-- A value is not of the wanted kind. -/
def notA {α : Type} (wanted : String) (v : Json) : Except Mismatch α :=
  .error (.wrongKind v.described wanted)

end Colloquy.Json
