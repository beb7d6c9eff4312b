import Colloquy.Decimal.Shortest
import Colloquy.Json.Basic

/-!
# JSON text

`Json.print` is the compact text of a value: no blanks, fields in their
order, every character of a string as itself except the quotation mark,
the backslash and the controls below U+0020. It is written as one pass
over the value; after the first item of a list or object, each further
one is written with the comma in front of it.

An `Outline` is a document whose scalars are already text. It is what the
indented form is defined on, since a setting may be written in a form –
a number of four bytes – that no JSON value holds.
-/

namespace Colloquy.Json

/-- **JSON numbers** have at least one decimal, and are written out in
full while the exponent of the leading digit is between -5 and 15. -/
def realLayout : Decimal.Layout := ⟨some (-5, 15), true, .toEven⟩

/-- **Numbers of four bytes**, with fewer digits to write, are written out
in full while the exponent is between -6 and 12. -/
def singleLayout : Decimal.Layout := ⟨some (-6, 12), true, .toEven⟩

/-- The text of a number. -/
def Number.print : Number → List Char
  | .integer i _ => Decimal.integer i
  | .real x => realLayout.text x

/-- A hexadecimal digit, in small letters. -/
def hexDigit (n : Nat) : Char :=
  if n < 10 then Char.ofNat (48 + n) else Char.ofNat (87 + n)

/-- **A character inside a JSON string.** -/
def printChar (c : Char) : List Char :=
  if c = '"' then ['\\', '"']
  else if c = '\\' then ['\\', '\\']
  else if c = '\x08' then ['\\', 'b']
  else if c = '\x0c' then ['\\', 'f']
  else if c = '\n' then ['\\', 'n']
  else if c = '\r' then ['\\', 'r']
  else if c = '\t' then ['\\', 't']
  else if c.toNat < 0x20 then
    ['\\', 'u', '0', '0', hexDigit (c.toNat / 16), hexDigit (c.toNat % 16)]
  else [c]

/-- The text of a string, with its quotation marks. -/
def printString (s : String) : List Char :=
  '"' :: (s.toList.flatMap printChar ++ ['"'])

mutual

/-- **The compact text of a value.** -/
def print : Json → List Char
  | .null => ['n', 'u', 'l', 'l']
  | .bool true => ['t', 'r', 'u', 'e']
  | .bool false => ['f', 'a', 'l', 's', 'e']
  | .num n => n.print
  | .str s => printString s
  | .arr [] => ['[', ']']
  | .arr (x :: xs) => '[' :: (print x ++ printItems xs)
  | .obj [] => ['{', '}']
  | .obj ((k, v) :: fields) => '{' :: (printString k ++ ':' :: (print v ++ printFields fields))

/-- The further items of a list, up to its closing bracket. -/
def printItems : List Json → List Char
  | [] => [']']
  | x :: xs => ',' :: (print x ++ printItems xs)

/-- The further fields of an object, up to its closing brace. -/
def printFields : List (String × Json) → List Char
  | [] => ['}']
  | (k, v) :: fields => ',' :: (printString k ++ ':' :: (print v ++ printFields fields))

end

/-- The compact text of a value, as a string. -/
def compact (v : Json) : String :=
  String.ofList v.print

/-- **A document whose scalars are already text.** -/
inductive Outline where
  /-- A scalar. -/
  | scalar (text : List Char)
  /-- A list. -/
  | list (items : List Outline)
  /-- Named parts, in the order they are to be written. -/
  | record (fields : List (String × Outline))

/-- A line break and the indentation of a level, two blanks each. -/
def newLine (level : Nat) : List Char :=
  '\n' :: List.replicate (2 * level) ' '

mutual

/-- **The indented text of a document**, from a level of indentation on. -/
def Outline.indented (level : Nat) : Outline → List Char
  | .scalar text => text
  | .list [] => ['[', ']']
  | .list (x :: xs) =>
    '[' :: (newLine (level + 1) ++ x.indented (level + 1) ++ indentedItems level xs)
  | .record [] => ['{', '}']
  | .record ((k, v) :: fields) =>
    '{' :: (newLine (level + 1) ++ printString k ++ ':' :: ' ' ::
      (v.indented (level + 1) ++ indentedFields level fields))

/-- The further items of an indented list. -/
def indentedItems (level : Nat) : List Outline → List Char
  | [] => newLine level ++ [']']
  | x :: xs =>
    ',' :: (newLine (level + 1) ++ x.indented (level + 1) ++ indentedItems level xs)

/-- The further parts of an indented record. -/
def indentedFields (level : Nat) : List (String × Outline) → List Char
  | [] => newLine level ++ ['}']
  | (k, v) :: fields =>
    ',' :: (newLine (level + 1) ++ printString k ++ ':' :: ' ' ::
      (v.indented (level + 1) ++ indentedFields level fields))

end

/-- The indented text of a document, as a string. -/
def Outline.pretty (o : Outline) : String :=
  String.ofList (o.indented 0)

end Colloquy.Json
