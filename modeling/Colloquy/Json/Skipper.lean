import Colloquy.Json.Reader

/-!
# Passing over a value

A reader that wants only some fields of an object passes over the values
of the others. It is more lenient than reading: nothing limits the depth,
a number may be out of range, an escape may be half of a surrogate pair.
It also words some faults in its own way, since it does not keep track of
what the brackets hold: where an item or a name must stand, a closing
bracket is just something else.
-/

namespace Colloquy.Json.Skipper

open Decimal (isDigit)
open Reader (skipSpace readWord readColon readQuad escaped?)

/-- The rest of a string, up to its quotation mark. -/
def skipString : Nat → List Char → Except Fault (List Char)
  | 0, _ => .error (.before .unfinishedString [])
  | _ + 1, [] => .error (.before .unfinishedString [])
  | fuel + 1, c :: rest =>
    if c = '"' then .ok rest
    else if c = '\\' then
      match rest with
      | [] => .error (.before .unfinishedString [])
      | d :: after =>
        if d = 'u' then do
          let (_, after) ← readQuad after
          skipString fuel after
        else if (escaped? d).isSome then skipString fuel after
        else .error (.at .invalidEscape rest)
    else if c.toNat < 0x20 then .error (.before .controlCharacter (c :: rest))
    else skipString fuel rest

/-- Digits of which there must be one. -/
def skipDigits (cs : List Char) : Except Fault (List Char) :=
  match cs with
  | [] => .error (.at .invalidNumber [])
  | c :: rest => if isDigit c then .ok (rest.dropWhile isDigit) else .error (.at .invalidNumber cs)

/-- The exponent of a number, if one begins here. -/
def skipExponent (cs : List Char) : Except Fault (List Char) :=
  if Numeral.atExponent cs then
    let cs := cs.drop 1
    skipDigits (if cs.head? == some '-' || cs.head? == some '+' then cs.drop 1 else cs)
  else .ok cs

/-- The fraction of a number, if one begins here, and its exponent. -/
def skipFraction (cs : List Char) : Except Fault (List Char) := do
  if cs.head? == some '.' then skipExponent (← skipDigits (cs.drop 1)) else skipExponent cs

/-- **A number without its sign.** -/
def skipMagnitude (cs : List Char) : Except Fault (List Char) :=
  match cs with
  | [] => .error (.at .invalidNumber [])
  | c :: rest =>
    if c = '0' then
      if rest.head?.any isDigit then .error (.at .invalidNumber rest) else skipFraction rest
    else if isDigit c then skipFraction (rest.dropWhile isDigit)
    else .error (.at .invalidNumber cs)

/-- A value that is neither list nor object, at its first character. -/
def skipScalar (cs : List Char) : Except Fault (List Char) :=
  match cs with
  | [] => .error (.before .unfinishedValue [])
  | c :: rest =>
    if c = 'n' then readWord ['u', 'l', 'l'] rest
    else if c = 't' then readWord ['r', 'u', 'e'] rest
    else if c = 'f' then readWord ['a', 'l', 's', 'e'] rest
    else if c = '"' then skipString (rest.length + 1) rest
    else if c = '-' then skipMagnitude rest
    else if isDigit c then skipMagnitude cs
    else .error (.at .expectedValue cs)

/-- What is open around the place where the reader stands. -/
inductive Open where
  /-- A list. -/
  | list
  /-- An object. -/
  | object
deriving DecidableEq

/-- The name of a field and its colon. -/
def skipName (cs : List Char) : Except Fault (List Char) :=
  match skipSpace cs with
  | [] => .error (.before .unfinishedObject [])
  | c :: rest =>
    if c = '"' then do readColon (← skipString (rest.length + 1) rest)
    else .error (.at .keyMustBeString (c :: rest))

mutual

/-- **A value**, with what is open around it. -/
def skipValue : Nat → List Open → List Char → Except Fault (List Char)
  | 0, _, cs => .error (.at .recursionLimit cs)
  | fuel + 1, around, cs =>
    match skipSpace cs with
    | [] => .error (.before .unfinishedValue [])
    | c :: rest =>
      if c = '[' then
        match skipSpace rest with
        | [] => .error (.before .unfinishedList [])
        | d :: after =>
          if d = ']' then skipRest fuel around after
          else skipValue fuel (.list :: around) (d :: after)
      else if c = '{' then
        match skipSpace rest with
        | [] => .error (.before .unfinishedObject [])
        | d :: after =>
          if d = '}' then skipRest fuel around after
          else do skipValue fuel (.object :: around) (← skipName (d :: after))
      else do skipRest fuel around (← skipScalar (c :: rest))

/-- **What follows a value** inside what is open around it. -/
def skipRest : Nat → List Open → List Char → Except Fault (List Char)
  | 0, _, cs => .error (.at .recursionLimit cs)
  | _ + 1, [], cs => .ok cs
  | fuel + 1, inner :: around, cs =>
    match skipSpace cs, inner with
    | [], .list => .error (.before .unfinishedList [])
    | [], .object => .error (.before .unfinishedObject [])
    | c :: rest, .list =>
      if c = ',' then skipValue fuel (.list :: around) rest
      else if c = ']' then skipRest fuel around rest
      else .error (.at .expectedCommaOrBracket (c :: rest))
    | c :: rest, .object =>
      if c = ',' then do skipValue fuel (.object :: around) (← skipName rest)
      else if c = '}' then skipRest fuel around rest
      else .error (.at .expectedCommaOrBrace (c :: rest))

end

end Skipper

/-- **Passing over one value**: what of the text is behind it. -/
def skip (cs : List Char) : Except Fault (List Char) :=
  Skipper.skipValue (2 * cs.length + 2) [] cs

end Colloquy.Json
