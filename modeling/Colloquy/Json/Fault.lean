/-!
# Faults of a JSON text

What can be wrong with a JSON text, and where. A reader works on the
characters not yet read, so it states a place by how many bytes are still
to come when it gives up; the line and the column are worked out once, at
the end, from the whole text. The offending byte itself counts as read:
columns start at one, and a line break that offends is at column zero of
the line it begins.
-/

namespace Colloquy.Json

/-- **What is wrong with a text.** -/
inductive Flaw where
  /-- Nothing that begins a value. -/
  | expectedValue
  /-- A literal that goes wrong after its first letter. -/
  | expectedIdent
  /-- The text ends where a value, or more of one, must stand. -/
  | unfinishedValue
  /-- The text ends inside a list. -/
  | unfinishedList
  /-- The text ends inside an object. -/
  | unfinishedObject
  /-- The text ends inside a string. -/
  | unfinishedString
  /-- A field name without its colon. -/
  | expectedColon
  /-- An item of a list followed by something else than a comma. -/
  | expectedCommaOrBracket
  /-- A field of an object followed by something else than a comma. -/
  | expectedCommaOrBrace
  /-- A comma before a closing bracket. -/
  | trailingComma
  /-- A field name that is not a string. -/
  | keyMustBeString
  /-- Something behind the value. -/
  | trailingCharacters
  /-- A number with a digit too few or too many. -/
  | invalidNumber
  /-- A number beyond the doubles. -/
  | numberOutOfRange
  /-- A backslash followed by nothing it can escape. -/
  | invalidEscape
  /-- A control character inside a string. -/
  | controlCharacter
  /-- A surrogate that has no partner. -/
  | loneSurrogate
  /-- A leading surrogate that no further escape follows. -/
  | unfinishedSurrogate
  /-- Too many brackets inside one another. -/
  | recursionLimit
deriving DecidableEq, Repr

/-- The wording of a flaw. -/
def Flaw.message : Flaw → String
  | .expectedValue => "expected value"
  | .expectedIdent => "expected ident"
  | .unfinishedValue => "EOF while parsing a value"
  | .unfinishedList => "EOF while parsing a list"
  | .unfinishedObject => "EOF while parsing an object"
  | .unfinishedString => "EOF while parsing a string"
  | .expectedColon => "expected `:`"
  | .expectedCommaOrBracket => "expected `,` or `]`"
  | .expectedCommaOrBrace => "expected `,` or `\x7d`"
  | .trailingComma => "trailing comma"
  | .keyMustBeString => "key must be a string"
  | .trailingCharacters => "trailing characters"
  | .invalidNumber => "invalid number"
  | .numberOutOfRange => "number out of range"
  | .invalidEscape => "invalid escape"
  | .controlCharacter => "control character (\\u0000-\\u001F) found while parsing a string"
  | .loneSurrogate => "lone leading surrogate in hex escape"
  | .unfinishedSurrogate => "unexpected end of hex escape"
  | .recursionLimit => "recursion limit exceeded"

/-- **A flaw and its place**, given by the bytes not yet read. -/
structure Fault where
  /-- What is wrong. -/
  flaw : Flaw
  /-- How many bytes of the text are still to come. -/
  bytesLeft : Nat
deriving DecidableEq, Repr

/-- The bytes a text takes in UTF-8. -/
def byteLength (cs : List Char) : Nat :=
  cs.foldr (fun c n => c.utf8Size + n) 0

/-- A flaw just in front of the given rest of the text. -/
def Fault.before (flaw : Flaw) (rest : List Char) : Fault :=
  ⟨flaw, byteLength rest⟩

/-- A flaw at the first byte of the given rest, or at the end of the
text. -/
def Fault.at (flaw : Flaw) (rest : List Char) : Fault :=
  ⟨flaw, byteLength rest - 1⟩

/-- A place in a text that people can find. -/
structure Place where
  /-- The line, counted from one. -/
  line : Nat
  /-- The bytes of that line up to the place. -/
  column : Nat
deriving DecidableEq, Repr

/-- **The place so many bytes into a text.** -/
def Place.find : List Char → Nat → Place → Place
  | [], _, p => p
  | c :: cs, bytes, p =>
    if bytes < c.utf8Size then ⟨p.line, p.column + bytes⟩
    else if c = '\n' then Place.find cs (bytes - 1) ⟨p.line + 1, 0⟩
    else Place.find cs (bytes - c.utf8Size) ⟨p.line, p.column + c.utf8Size⟩

/-- Where in a text a fault is. -/
def Fault.place (text : List Char) (fault : Fault) : Place :=
  Place.find text (byteLength text - fault.bytesLeft) ⟨1, 0⟩

/-- **The report of a fault** in a text. -/
def Fault.message (text : List Char) (fault : Fault) : String :=
  let place := fault.place text
  s!"{fault.flaw.message} at line {place.line} column {place.column}"

end Colloquy.Json
