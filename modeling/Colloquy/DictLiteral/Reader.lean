import Colloquy.Decimal.Literal
import Colloquy.Json.Basic
import Colloquy.Text.Letters

/-!
# Reading dict literals

The lenient notation a model falls into when it does not write JSON:
comments, quotation marks of either kind, names without quotation marks, a
comma after the last item, signs and bases of numbers. A literal stands
for a JSON value; what JSON cannot hold – infinities and what is not a
number – becomes null. Nothing limits how deep a literal may be nested,
and of several fields with one name the last wins.

The caller only needs to know whether a text can be read at all, so the
reader says no more than that.
-/

namespace Colloquy.DictLiteral

open Decimal (isDigit valueOf)

/-- **A reader** of the beginning of a text: what it read, and the rest. -/
abbrev Reader (α : Type) := List Char → Option (α × List Char)

/-- The blanks between tokens: the controls from tab to carriage return,
the space separators, the line and paragraph separators and the byte-order
mark. -/
def isSpace (c : Char) : Bool :=
  let n := c.toNat
  (9 ≤ n && n ≤ 13) || n == 0x20 || n == 0xA0 || n == 0x1680
    || (0x2000 ≤ n && n ≤ 0x200A) || n == 0x2028 || n == 0x2029
    || n == 0x202F || n == 0x205F || n == 0x3000 || n == 0xFEFF

/-- The characters that end a line. -/
def endsLine (c : Char) : Bool :=
  c = '\n' || c = '\r' || c = '\u2028' || c = '\u2029'

/-- The text behind a comment that ends with its own mark. -/
def closeComment : List Char → Option (List Char)
  | [] => none
  | '*' :: '/' :: cs => some cs
  | _ :: cs => closeComment cs

/-- **Blanks and comments** are skipped; a comment that is not closed
makes the text unreadable. -/
def skip : Nat → List Char → Option (List Char)
  | 0, cs => some cs
  | fuel + 1, cs =>
    match cs.dropWhile isSpace with
    | '/' :: '/' :: rest => skip fuel (rest.dropWhile fun c => !endsLine c)
    | '/' :: '*' :: rest => (closeComment rest).bind (skip fuel)
    | rest => some rest

/-- The text at its next token. Comments are rare, and so only a slash
makes it worth counting what is left. -/
def token (cs : List Char) : Option (List Char) :=
  match cs.dropWhile isSpace with
  | '/' :: rest => skip (rest.length + 1) ('/' :: rest)
  | rest => some rest

/-- The value of a hexadecimal digit, in either case. -/
def hexValue? (c : Char) : Option Nat :=
  if isDigit c then some (c.toNat - 48)
  else if 'a' ≤ c ∧ c ≤ 'f' then some (c.toNat - 87)
  else if 'A' ≤ c ∧ c ≤ 'F' then some (c.toNat - 55)
  else none

/-- A given number of hexadecimal digits. -/
def hex : Nat → Nat → Reader Nat
  | 0, n, cs => some (n, cs)
  | _ + 1, _, [] => none
  | k + 1, n, c :: cs => (hexValue? c).bind fun d => hex k (16 * n + d) cs

/-- **A character given by its code**, behind `\u`: four digits, or a pair
of surrogates. -/
def code : Reader Char := fun cs => do
  let (n, rest) ← hex 4 0 cs
  if 0xDC00 ≤ n && n ≤ 0xDFFF then none
  else if 0xD800 ≤ n && n ≤ 0xDBFF then
    match rest with
    | '\\' :: 'u' :: rest =>
      let (m, rest) ← hex 4 0 rest
      if 0xDC00 ≤ m && m ≤ 0xDFFF then
        some (Char.ofNat (0x10000 + (n - 0xD800) * 1024 + (m - 0xDC00)), rest)
      else none
    | _ => none
  else some (Char.ofNat n, rest)

/-- **An escape**, behind its backslash. An escaped line end stands for
nothing, a letter of the list for a control character, and most other
characters for themselves; digits do not, zero alone excepted. -/
def escape : Reader (List Char)
  | [] => none
  | c :: rest =>
    if c = 'b' then some (['\x08'], rest)
    else if c = 't' then some (['\t'], rest)
    else if c = 'n' then some (['\n'], rest)
    else if c = 'v' then some (['\x0b'], rest)
    else if c = 'f' then some (['\x0c'], rest)
    else if c = 'r' then some (['\r'], rest)
    else if c = 'x' then (hex 2 0 rest).map fun r => ([Char.ofNat r.1], r.2)
    else if c = 'u' then (code rest).map fun r => ([r.1], r.2)
    else if c = '\r' then some ([], if rest.head? == some '\n' then rest.drop 1 else rest)
    else if endsLine c then some ([], rest)
    else if c = '0' then if rest.head?.any isDigit then none else some (['\x00'], rest)
    else if isDigit c then none
    else some ([c], rest)

/-- **The characters of a string**, behind its opening mark. Only raw line
feeds and carriage returns are refused. -/
def chars : Nat → Char → Reader (List Char)
  | 0, _, _ => none
  | _ + 1, _, [] => none
  | fuel + 1, mark, c :: rest =>
    if c = mark then some ([], rest)
    else if c = '\\' then do
      let (ds, rest) ← escape rest
      let (es, rest) ← chars fuel mark rest
      some (ds ++ es, rest)
    else if c = '\n' || c = '\r' then none
    else do
      let (es, rest) ← chars fuel mark rest
      some (c :: es, rest)

/-- A string, behind its opening mark. -/
def string (mark : Char) : Reader String := fun cs => do
  let (ds, rest) ← chars (cs.length + 1) mark cs
  some (String.ofList ds, rest)

/-- **A name without quotation marks.** A character of it may be given by
its code. -/
def identifier : Nat → Bool → Reader (List Char)
  | 0, _, _ => none
  | fuel + 1, first, cs =>
    let admits := if first then Text.isIdentifierStart else Text.isIdentifierPart
    match cs with
    | '\\' :: 'u' :: rest => do
      let (c, rest) ← code rest
      if admits c then
        let (ds, rest) ← identifier fuel false rest
        some (c :: ds, rest)
      else none
    | c :: rest =>
      if admits c then do
        let (ds, rest) ← identifier fuel false rest
        some (c :: ds, rest)
      else if first then none
      else some ([], cs)
    | [] => if first then none else some ([], [])

/-- A name of a field. -/
def name : Reader String
  | '"' :: rest => string '"' rest
  | '\'' :: rest => string '\'' rest
  | cs => do
    let (ds, rest) ← identifier (cs.length + 1) true cs
    some (String.ofList ds, rest)

/-- An integer, or the nearest double if it is out of range. -/
def integer (negative : Bool) (n : Nat) : Json :=
  match Json.Number.ofInt? (if negative then -n else n) with
  | some x => .num x
  | none => .null

/-- A double, or null where there is no finite one. -/
def real : Decimal.Extended Decimal.doubleFormat → Json
  | .finite x => .num (.real x)
  | _ => .null

/-- **The value of a run of digits, points, signs and exponent marks**, if
it is a number. Digits alone are an integer. -/
def runValue? (negative : Bool) (run : List Char) : Option Json :=
  if !run.isEmpty && run.all isDigit then some (integer negative (valueOf run))
  else
    (Decimal.Literal.ofChars? run).map fun x =>
      real (x.nearest Decimal.doubleFormat negative)

/-- The characters that a run goes on with. -/
def inRun (c : Char) : Bool :=
  isDigit c || c = '.' || c = 'e' || c = 'E' || c = '+' || c = '-'

/-- The first magnitude that no hexadecimal integer may reach: its sixteen
bytes are read with a sign only where one is written. -/
def hexBeyond (negative : Bool) : Nat :=
  if negative then Decimal.twoTo 127 + 1 else Decimal.twoTo 128

/-- **A hexadecimal integer**, behind `0x`. -/
def hexInteger (negative : Bool) : Reader Json := fun cs =>
  let run := cs.takeWhile fun c => (hexValue? c).isSome
  let n := run.foldl (fun n c => 16 * n + (hexValue? c).getD 0) 0
  if run.isEmpty || hexBeyond negative ≤ n then none
  else some (integer negative n, cs.drop run.length)

/-- A run of digits and what else a number holds. -/
def run (negative : Bool) : Reader Json := fun cs =>
  (runValue? negative (cs.takeWhile inRun)).map fun v => (v, cs.dropWhile inRun)

/-- What stands behind a word, if the text begins with it. -/
def behind? : List Char → List Char → Option (List Char)
  | [], cs => some cs
  | _ :: _, [] => none
  | w :: word, c :: cs => if c = w then behind? word cs else none

/-- **A number without its sign.** -/
def magnitude (negative : Bool) : Reader Json := fun cs =>
  match cs with
  | [] => none
  | '0' :: rest =>
    match rest with
    | [] => some (integer negative 0, [])
    | d :: after =>
      if d = 'x' || d = 'X' then hexInteger negative after
      else if d = '.' || d = 'e' || d = 'E' then run negative cs
      else if isDigit d then none
      else some (integer negative 0, rest)
  | c :: _ =>
    if c = 'I' then (behind? "Infinity".toList cs).map fun rest => (.null, rest)
    else if c = 'N' then (behind? "NaN".toList cs).map fun rest => (.null, rest)
    else if c = '.' || isDigit c then run negative cs
    else none

/-- A value that is neither list nor dict. -/
def scalar : Reader Json := fun cs =>
  match cs with
  | [] => none
  | c :: rest =>
    if c = 'n' then (behind? "null".toList cs).map fun rest => (.null, rest)
    else if c = 't' then (behind? "true".toList cs).map fun rest => (.bool true, rest)
    else if c = 'f' then (behind? "false".toList cs).map fun rest => (.bool false, rest)
    else if c = '"' || c = '\'' then (string c rest).map fun r => (.str r.1, r.2)
    else if c = '-' then magnitude true rest
    else if c = '+' then magnitude false rest
    else magnitude false cs

mutual

/-- **A value.** -/
def value : Nat → Reader Json
  | 0, _ => none
  | fuel + 1, cs => do
    match ← token cs with
    | '[' :: rest =>
      let (xs, rest) ← items fuel rest
      some (.arr xs, rest)
    | '{' :: rest =>
      let (es, rest) ← fields fuel rest
      some (.ofFields es, rest)
    | rest => scalar rest

/-- **The items of a list** from here on, up to its closing bracket. -/
def items : Nat → Reader (List Json)
  | 0, _ => none
  | fuel + 1, cs => do
    match ← token cs with
    | ']' :: rest => some ([], rest)
    | rest =>
      let (x, rest) ← value fuel rest
      match ← token rest with
      | ',' :: rest =>
        let (xs, rest) ← items fuel rest
        some (x :: xs, rest)
      | ']' :: rest => some ([x], rest)
      | _ => none

/-- **The fields of a dict** from here on, up to its closing brace. -/
def fields : Nat → Reader (List (String × Json))
  | 0, _ => none
  | fuel + 1, cs => do
    match ← token cs with
    | '}' :: rest => some ([], rest)
    | rest =>
      let (k, rest) ← name rest
      match ← token rest with
      | ':' :: rest =>
        let (v, rest) ← value fuel rest
        match ← token rest with
        | ',' :: rest =>
          let (es, rest) ← fields fuel rest
          some ((k, v) :: es, rest)
        | '}' :: rest => some ([(k, v)], rest)
        | _ => none
      | _ => none

end

/-- **Reading a text** that is exactly one literal, its words already in
small letters. -/
def readChars (cs : List Char) : Option Json := do
  let (v, rest) ← value (2 * cs.length + 2) cs
  match ← token rest with
  | [] => some v
  | _ => none

end Colloquy.DictLiteral
