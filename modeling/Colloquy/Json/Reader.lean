import Colloquy.Json.Numeral

/-!
# Reading JSON text

The strict reader: exactly one value, with blanks of four kinds around its
tokens and nothing else around it. Lists and objects may be nested 127
deep. Of several fields with one name the last wins. Whatever is wrong is
reported as the first fault in the order of the text.

The reader follows the printer's shape: behind the first item of a list,
`readItems` reads what `printItems` writes, each further item with the
comma in front of it, up to the closing bracket. Every step takes at least
one character, so a counter that starts at the length of the text never
runs out.
-/

namespace Colloquy.Json

namespace Reader

/-- The blanks between tokens. -/
def isSpace (c : Char) : Bool :=
  c = ' ' || c = '\n' || c = '\t' || c = '\r'

/-- A text without the blanks it begins with. -/
def skipSpace (cs : List Char) : List Char :=
  cs.dropWhile isSpace

/-- The value of a hexadecimal digit, in either case. -/
def hexValue? (c : Char) : Option Nat :=
  if '0' ≤ c ∧ c ≤ '9' then some (c.toNat - 48)
  else if 'a' ≤ c ∧ c ≤ 'f' then some (c.toNat - 87)
  else if 'A' ≤ c ∧ c ≤ 'F' then some (c.toNat - 55)
  else none

/-- Four hexadecimal digits at the start of a text, and what follows. -/
def quad? : List Char → Option (Nat × List Char)
  | a :: b :: c :: d :: rest => do
    pure (4096 * (← hexValue? a) + 256 * (← hexValue? b) + 16 * (← hexValue? c)
      + (← hexValue? d), rest)
  | _ => none

/-- **The four digits of an escape.** Four bytes are taken whatever they
are, and then looked at. -/
def readQuad (cs : List Char) : Except Fault (Nat × List Char) :=
  match quad? cs with
  | some r => .ok r
  | none =>
    if byteLength cs < 4 then .error (.before .unfinishedString [])
    else .error ⟨.invalidEscape, byteLength cs - 4⟩

/-- Whether a unit is the first half of a surrogate pair. -/
def isLeading (n : Nat) : Bool := 0xD800 ≤ n && n ≤ 0xDBFF

/-- Whether a unit is the second half of a surrogate pair. -/
def isTrailing (n : Nat) : Bool := 0xDC00 ≤ n && n ≤ 0xDFFF

/-- The character a surrogate pair stands for. -/
def joined (leading trailing : Nat) : Char :=
  Char.ofNat (0x10000 + (leading - 0xD800) * 1024 + (trailing - 0xDC00))

/-- One expected character of the second half of a surrogate pair. -/
def expectPair (wanted : Char) (cs : List Char) : Except Fault (List Char) :=
  match cs with
  | [] => .error (.before .unfinishedString [])
  | c :: rest => if c = wanted then .ok rest else .error (.at .unfinishedSurrogate cs)

/-- **A character given by its code**, behind `\u`. Codes beyond four
digits are given as a surrogate pair. -/
def readCode (cs : List Char) : Except Fault (Char × List Char) := do
  let (n, rest) ← readQuad cs
  if isTrailing n then .error (.before .loneSurrogate rest)
  else if isLeading n then
    let rest ← expectPair '\\' rest
    let rest ← expectPair 'u' rest
    let (m, rest) ← readQuad rest
    if isTrailing m then .ok (joined n m, rest) else .error (.before .loneSurrogate rest)
  else .ok (Char.ofNat n, rest)

/-- The character a letter behind a backslash stands for. -/
def escaped? (c : Char) : Option Char :=
  if c = '"' then some '"'
  else if c = '\\' then some '\\'
  else if c = '/' then some '/'
  else if c = 'b' then some '\x08'
  else if c = 'f' then some '\x0c'
  else if c = 'n' then some '\n'
  else if c = 'r' then some '\r'
  else if c = 't' then some '\t'
  else none

/-- **An escaped character**, behind its backslash. -/
def readEscape (cs : List Char) : Except Fault (Char × List Char) :=
  match cs with
  | [] => .error (.before .unfinishedString [])
  | c :: rest =>
    if c = 'u' then readCode rest
    else
      match escaped? c with
      | some d => .ok (d, rest)
      | none => .error (.at .invalidEscape cs)

/-- **The characters of a string**, behind its quotation mark, and what
follows the closing one. -/
def readChars : Nat → List Char → Except Fault (List Char × List Char)
  | 0, _ => .error (.before .unfinishedString [])
  | _ + 1, [] => .error (.before .unfinishedString [])
  | fuel + 1, c :: rest =>
    if c = '"' then .ok ([], rest)
    else if c = '\\' then do
      let (d, rest) ← readEscape rest
      let (ds, rest) ← readChars fuel rest
      .ok (d :: ds, rest)
    else if c.toNat < 0x20 then .error (.at .controlCharacter (c :: rest))
    else do
      let (ds, rest) ← readChars fuel rest
      .ok (c :: ds, rest)

/-- **A string**, behind its quotation mark. -/
def readString (cs : List Char) : Except Fault (String × List Char) := do
  let (ds, rest) ← readChars (cs.length + 1) cs
  .ok (String.ofList ds, rest)

/-- **The rest of a literal**, character by character. -/
def readWord : List Char → List Char → Except Fault (List Char)
  | [], cs => .ok cs
  | _ :: _, [] => .error (.before .unfinishedValue [])
  | w :: word, c :: cs =>
    if c = w then readWord word cs else .error (.at .expectedIdent (c :: cs))

/-- The colon behind a field name. -/
def readColon (cs : List Char) : Except Fault (List Char) :=
  match skipSpace cs with
  | [] => .error (.before .unfinishedObject [])
  | c :: rest => if c = ':' then .ok rest else .error (.at .expectedColon (c :: rest))

/-- A value that is neither list nor object, at its first character. -/
def readScalar (cs : List Char) : Except Fault (Json × List Char) :=
  match cs with
  | [] => .error (.before .unfinishedValue [])
  | c :: rest =>
    if c = 'n' then do .ok (.null, ← readWord ['u', 'l', 'l'] rest)
    else if c = 't' then do .ok (.bool true, ← readWord ['r', 'u', 'e'] rest)
    else if c = 'f' then do .ok (.bool false, ← readWord ['a', 'l', 's', 'e'] rest)
    else if c = '"' then do
      let (s, rest) ← readString rest
      .ok (.str s, rest)
    else if c = '-' || Decimal.isDigit c then do
      let (n, rest) ← Numeral.read cs
      .ok (.num n, rest)
    else .error (.at .expectedValue cs)

/-- How deep lists and objects may be nested. -/
def greatestDepth : Nat := 127

mutual

/-- **A value**, with the number of further levels it may open. -/
def readValue : Nat → Nat → List Char → Except Fault (Json × List Char)
  | 0, _, cs => .error (.at .recursionLimit cs)
  | fuel + 1, depth, cs =>
    match skipSpace cs with
    | [] => .error (.before .unfinishedValue [])
    | c :: rest =>
      if c = '[' then
        match depth with
        | 0 => .error (.at .recursionLimit (c :: rest))
        | depth + 1 =>
          match skipSpace rest with
          | [] => .error (.before .unfinishedList [])
          | d :: after =>
            if d = ']' then .ok (.arr [], after)
            else do
              let (x, rest) ← readValue fuel depth (d :: after)
              let (xs, rest) ← readItems fuel depth rest
              .ok (.arr (x :: xs), rest)
      else if c = '{' then
        match depth with
        | 0 => .error (.at .recursionLimit (c :: rest))
        | depth + 1 =>
          match skipSpace rest with
          | [] => .error (.before .unfinishedObject [])
          | d :: after =>
            if d = '}' then .ok (.obj [], after)
            else if d = '"' then do
              let (e, rest) ← readField fuel depth after
              let (es, rest) ← readFields fuel depth rest
              .ok (.ofFields (e :: es), rest)
            else .error (.at .keyMustBeString (d :: after))
      else readScalar (c :: rest)

/-- **The further items of a list**, up to its closing bracket. -/
def readItems : Nat → Nat → List Char → Except Fault (List Json × List Char)
  | 0, _, cs => .error (.at .recursionLimit cs)
  | fuel + 1, depth, cs =>
    match skipSpace cs with
    | [] => .error (.before .unfinishedList [])
    | c :: rest =>
      if c = ']' then .ok ([], rest)
      else if c = ',' then
        match skipSpace rest with
        | [] => .error (.before .unfinishedValue [])
        | d :: after =>
          if d = ']' then .error (.at .trailingComma (d :: after))
          else do
            let (x, rest) ← readValue fuel depth (d :: after)
            let (xs, rest) ← readItems fuel depth rest
            .ok (x :: xs, rest)
      else .error (.at .expectedCommaOrBracket (c :: rest))

/-- **A field of an object**, behind the quotation mark of its name. -/
def readField : Nat → Nat → List Char → Except Fault ((String × Json) × List Char)
  | 0, _, cs => .error (.at .recursionLimit cs)
  | fuel + 1, depth, cs => do
    let (name, rest) ← readString cs
    let rest ← readColon rest
    let (value, rest) ← readValue fuel depth rest
    .ok ((name, value), rest)

/-- **The further fields of an object**, up to its closing brace. -/
def readFields : Nat → Nat → List Char → Except Fault (List (String × Json) × List Char)
  | 0, _, cs => .error (.at .recursionLimit cs)
  | fuel + 1, depth, cs =>
    match skipSpace cs with
    | [] => .error (.before .unfinishedObject [])
    | c :: rest =>
      if c = '}' then .ok ([], rest)
      else if c = ',' then
        match skipSpace rest with
        | [] => .error (.before .unfinishedValue [])
        | d :: after =>
          if d = '}' then .error (.at .trailingComma (d :: after))
          else if d = '"' then do
            let (e, rest) ← readField fuel depth after
            let (es, rest) ← readFields fuel depth rest
            .ok (e :: es, rest)
          else .error (.at .keyMustBeString (d :: after))
      else .error (.at .expectedCommaOrBrace (c :: rest))

end

/-- Nothing but blanks may follow the value. -/
def readEnd (cs : List Char) : Except Fault Unit :=
  match skipSpace cs with
  | [] => .ok ()
  | c :: rest => .error (.at .trailingCharacters (c :: rest))

end Reader

/-- **Reading a text** that is exactly one value. -/
def readChars (cs : List Char) : Except Fault Json := do
  let (value, rest) ← Reader.readValue (cs.length + 1) Reader.greatestDepth cs
  Reader.readEnd rest
  .ok value

/-- **Reading a string** that holds exactly one value. -/
def read (s : String) : Except Fault Json :=
  readChars s.toList

end Colloquy.Json
