import Colloquy.Decimal.Digits
import Colloquy.Json.Basic
import Colloquy.Json.Fault

/-!
# Reading JSON numbers

A number is a run of digits without idle zeros in front, perhaps a
fraction, perhaps an exponent. Its digits are collected in a counter of
sixty-four bits (`collect`); those that no longer fit are dropped, and in
front of the point each dropped digit raises the exponent by one.

A number without fraction and exponent whose digits all fit is an integer.
Every other one is a double, found by scaling the collected digits with a
power of ten that is itself rounded to a double (`scaled?`) – two roundings,
so the last bit may differ from the nearest double. A number too small
becomes zero, one too large is a fault.
-/

namespace Colloquy.Json.Numeral

open Decimal (isDigit digitValue tenTo Double Finite doubleFormat)

/-- **Collecting digits** while the number they spell fits sixty-four
bits: the number, and the digits left over. -/
def collect (n : Nat) : List Char → Nat × List Char
  | [] => (n, [])
  | c :: cs =>
    if 10 * n + digitValue c < 0x10000000000000000 then collect (10 * n + digitValue c) cs
    else (n, c :: cs)

/-- The double nearest to a power of ten, if it is finite. -/
def powerOfTen? (n : Nat) : Option Double :=
  Finite.nearest? doubleFormat false (tenTo n) 1

/-- **The double a significand and an exponent give**, none when it is
out of range. Powers of ten beyond 308 are not doubles: an exponent below
-308 is applied in two steps, and below -616 nothing is left. -/
def scaled? (negative : Bool) (significand : Nat) (exponent : Int) : Option Double := do
  let x ← Finite.nearest? doubleFormat negative significand 1
  if 0 ≤ exponent then
    if significand = 0 then some x
    else if exponent ≤ 308 then x.scaleBy? (← powerOfTen? exponent.toNat)
    else none
  else if -308 ≤ exponent then x.divideBy? (← powerOfTen? (-exponent).toNat)
  else if -616 ≤ exponent then
    (← x.divideBy? (← powerOfTen? 308)).divideBy? (← powerOfTen? (-exponent - 308).toNat)
  else Finite.nearest? doubleFormat negative 0 1

/-- An integer with its sign. Minus zero is a double, as is one that no
integer of sixty-four bits holds. -/
def whole? (negative : Bool) (n : Nat) : Option Number :=
  if negative && n = 0 then (scaled? true 0 0).map .real
  else Number.ofInt? (if negative then -n else n)

/-- What is behind a number that is out of range when none is given. -/
def inRange (x : Option Number) (rest : List Char) : Except Fault (Number × List Char) :=
  match x with
  | some x => .ok (x, rest)
  | none => .error (.before .numberOutOfRange rest)

/-- The greatest exponent that is still counted. -/
def greatestExponent : Nat := 0x7FFFFFFF

/-- **Counting an exponent's digits**: the exponent, or what is left of
them behind the digit that makes it too large to count. -/
def countExponent (n : Nat) : List Char → Except (List Char) Nat
  | [] => .ok n
  | c :: cs =>
    if 10 * n + digitValue c ≤ greatestExponent then countExponent (10 * n + digitValue c) cs
    else .error cs

/-- **The exponent of a number**, behind its mark. An exponent too large
to count puts a number other than zero out of range at that digit, if it
is positive, and makes it zero otherwise. -/
def readExponent (negative : Bool) (significand : Nat) (start : Int) (cs : List Char) :
    Except Fault (Number × List Char) :=
  let downward := cs.head? == some '-'
  let cs := if downward || cs.head? == some '+' then cs.drop 1 else cs
  let run := cs.takeWhile isDigit
  let rest := cs.dropWhile isDigit
  match run with
  | [] =>
    .error (.at (if cs.isEmpty then .unfinishedValue else .invalidNumber) cs)
  | _ =>
    match countExponent 0 run with
    | .ok n =>
      inRange ((scaled? negative significand (if downward then start - n else start + n)).map
        .real) rest
    | .error left =>
      if significand != 0 && !downward then
        .error (.before .numberOutOfRange (left ++ rest))
      else inRange ((scaled? negative 0 0).map .real) rest

/-- Whether an exponent begins here. -/
def atExponent (cs : List Char) : Bool :=
  cs.head? == some 'e' || cs.head? == some 'E'

/-- **The fraction of a number**, behind its point. -/
def readFraction (negative : Bool) (significand : Nat) (start : Int) (cs : List Char) :
    Except Fault (Number × List Char) :=
  let run := cs.takeWhile isDigit
  let rest := cs.dropWhile isDigit
  match run with
  | [] =>
    .error (.at (if cs.isEmpty then .unfinishedValue else .invalidNumber) cs)
  | _ =>
    let (n, left) := collect significand run
    let exponent := start - (run.length - left.length : Nat)
    if atExponent rest then readExponent negative n exponent (rest.drop 1)
    else inRange ((scaled? negative n exponent).map .real) rest

/-- A number from its digits in front of the point. -/
def readBehind (negative : Bool) (run rest : List Char) : Except Fault (Number × List Char) :=
  let (n, left) := collect 0 run
  if rest.head? == some '.' then readFraction negative n left.length (rest.drop 1)
  else if atExponent rest then readExponent negative n left.length (rest.drop 1)
  else if left.isEmpty then inRange (whole? negative n) rest
  else inRange ((scaled? negative n left.length).map .real) rest

/-- **A number without its sign.** Zero may not be followed by a digit. -/
def readMagnitude (negative : Bool) (cs : List Char) : Except Fault (Number × List Char) :=
  match cs with
  | [] => .error (.at .unfinishedValue [])
  | c :: rest =>
    if c = '0' then
      match rest with
      | d :: _ =>
        if isDigit d then .error (.at .invalidNumber rest) else readBehind negative ['0'] rest
      | [] => readBehind negative ['0'] []
    else if isDigit c then
      readBehind negative (cs.takeWhile isDigit) (cs.dropWhile isDigit)
    else .error (.at .invalidNumber cs)

/-- **A number**, at its sign or first digit. -/
def read (cs : List Char) : Except Fault (Number × List Char) :=
  match cs with
  | '-' :: rest => readMagnitude true rest
  | _ => readMagnitude false cs

end Colloquy.Json.Numeral
