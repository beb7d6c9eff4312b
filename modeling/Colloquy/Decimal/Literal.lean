import Colloquy.Decimal.Binary
import Colloquy.Decimal.Digits

/-!
# Decimal literals

Numbers as people write them: digits with at most one point among or
around them, and perhaps an exponent. One digit at least must be there,
before or behind the point. `Extended.ofText?` also reads a sign and the
names of the special values.
-/

namespace Colloquy.Decimal

/-- **A decimal**: `significand * 10 ^ exponent`. -/
structure Literal where
  /-- The digits, taken as one integer. -/
  significand : Nat
  /-- The power of ten they count. -/
  exponent : Int
deriving DecidableEq, Repr

namespace Literal

/-- Digits with a sign in front or none. -/
def signed? (cs : List Char) : Option Int :=
  let negative := cs.head? == some '-'
  let ds := if negative || cs.head? == some '+' then cs.drop 1 else cs
  if ds.isEmpty || !ds.all isDigit then none
  else some (if negative then -valueOf ds else valueOf ds)

/-- **A literal without a sign.** -/
def ofChars? (cs : List Char) : Option Literal :=
  let whole := cs.takeWhile isDigit
  let rest := cs.dropWhile isDigit
  let pointed := rest.head? == some '.'
  let fraction := if pointed then (rest.drop 1).takeWhile isDigit else []
  let behind := if pointed then (rest.drop 1).dropWhile isDigit else rest
  if whole.isEmpty && fraction.isEmpty then none
  else
    match behind with
    | [] => some ⟨valueOf (whole ++ fraction), -fraction.length⟩
    | c :: ds =>
      if c = 'e' || c = 'E' then
        (signed? ds).map fun e => ⟨valueOf (whole ++ fraction), e - fraction.length⟩
      else none

/-- The number of a format nearest to a literal. -/
def nearest (f : Format) (negative : Bool) (x : Literal) : Extended f :=
  Extended.nearestDecimal f negative x.significand x.exponent

end Literal

/-- A letter in its small form, if it is a capital ASCII letter. -/
def smallLetter (c : Char) : Char :=
  if 'A' ≤ c ∧ c ≤ 'Z' then Char.ofNat (c.toNat + 32) else c

/-- A special value by its name, in any case. -/
def special? (f : Format) (negative : Bool) (cs : List Char) : Option (Extended f) :=
  let small := cs.map smallLetter
  if small = ['i', 'n', 'f'] || small = ['i', 'n', 'f', 'i', 'n', 'i', 't', 'y'] then
    some (.infinite negative)
  else if small = ['n', 'a', 'n'] then some .notANumber
  else none

/-- **The number a text is**: a sign or none, and a literal or the name of
a special value. -/
def Extended.ofText? (f : Format) (cs : List Char) : Option (Extended f) :=
  let negative := cs.head? == some '-'
  let body := if negative || cs.head? == some '+' then cs.drop 1 else cs
  match special? f negative body with
  | some x => some x
  | none => (Literal.ofChars? body).map (Literal.nearest f negative)

/-- **The unsigned integer below a bound that a text is**: digits, perhaps
with a plus sign in front. -/
def natBelow? (bound : Nat) (cs : List Char) : Option Nat :=
  let ds := if cs.head? == some '+' then cs.drop 1 else cs
  if ds.isEmpty || !ds.all isDigit || bound ≤ valueOf ds then none else some (valueOf ds)

end Colloquy.Decimal
