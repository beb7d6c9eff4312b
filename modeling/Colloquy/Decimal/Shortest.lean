import Colloquy.Decimal.Binary
import Colloquy.Decimal.Digits

/-!
# The shortest decimal of a binary number

A binary number is written with the fewest decimal digits that read back
to it. The reals that round to a number form an interval around it,
reaching halfway to its neighbours; its ends belong to it exactly when
the number's integer is even. `Scaled.readsBack` is that interval as a
test on decimals, by cross-multiplication of naturals.

`Scaled.shortest` tries one digit, then two, and so on. On the grid of
decimals with that many digits only the two neighbours of the number need
testing – if any point of the grid lies in the interval, one of those two
does. The first grid with a point in the interval wins; where both
neighbours are in it the nearer one is taken, and where they are equally
near the format's rule for halves decides.

How the digits are then laid out is a `Layout`.
-/

namespace Colloquy.Decimal

/-- Which of two equally near decimals is taken. -/
inductive Halves where
  /-- The one whose last digit is even. -/
  | toEven
  /-- The larger one. -/
  | up
deriving DecidableEq, Repr

/-- **A run of significant digits and the place of the point** before the
first of them: the number `0.d₁d₂… * 10 ^ point`. -/
structure Significant where
  /-- The digits, none for zero. -/
  digits : List Char
  /-- The power of ten that the point stands at. -/
  point : Int
deriving DecidableEq, Repr

namespace Scaled

/-- **The rounding interval**: whether the decimal `d * 10 ^ e` reads back
to the number. -/
def readsBack (x : Scaled) (d : Nat) (e : Int) : Bool :=
  let low := if x.narrowBelow then 4 * x.m - 1 else 4 * x.m - 2
  let high := 4 * x.m + 2
  let decimal := d * tenTo e.toNat * twoTo (2 - x.q).toNat
  let unit := tenTo (-e).toNat * twoTo (x.q - 2).toNat
  if x.m % 2 = 0 then low * unit ≤ decimal && decimal ≤ high * unit
  else low * unit < decimal && decimal < high * unit

/-- Whether the number is below a power of ten. -/
def belowPower (x : Scaled) (k : Int) : Bool :=
  x.m * twoTo x.q.toNat * tenTo (-k).toNat < tenTo k.toNat * twoTo (-x.q).toNat

/-- **The place of the first digit**: the least power of ten the number is
below. The binary logarithm gives it up to a few, and comparison
decides. -/
def point (x : Scaled) : Int :=
  let estimate := ((x.m.log2 : Int) + x.q) * 30103 / 100000
  ([estimate - 1, estimate, estimate + 1].find? x.belowPower).getD (estimate + 2)

/-- The largest multiple of `10 ^ e` that is not above the number. -/
def floorAt (x : Scaled) (e : Int) : Nat :=
  x.m * twoTo x.q.toNat * tenTo (-e).toNat / (tenTo e.toNat * twoTo (-x.q).toNat)

/-- How the number compares with the middle between two neighbours on the
grid. -/
def compareMiddle (x : Scaled) (d : Nat) (e : Int) : Ordering :=
  compare (2 * (x.m * twoTo x.q.toNat * tenTo (-e).toNat))
    ((2 * d + 1) * (tenTo e.toNat * twoTo (-x.q).toNat))

/-- **The decimal taken from one grid**, if it has one that reads back. -/
def onGrid (x : Scaled) (halves : Halves) (e : Int) : Option Nat :=
  let d := x.floorAt e
  match x.readsBack d e, x.readsBack (d + 1) e with
  | false, false => none
  | true, false => some d
  | false, true => some (d + 1)
  | true, true =>
    match x.compareMiddle d e, halves with
    | .lt, _ => some d
    | .gt, _ => some (d + 1)
    | .eq, .up => some (d + 1)
    | .eq, .toEven => some (d + d % 2)

/-- The digits of a decimal, without the zeros it ends with. -/
def significant (d : Nat) (e : Int) : Significant :=
  let cs := digits d
  ⟨(cs.reverse.dropWhile (· == '0')).reverse, e + cs.length⟩

/-- **The fewest digits that read back**, for a number above zero.
Seventeen digits tell any two doubles apart; were they not enough, the
number's first seventeen digits would be returned. -/
def shortest (x : Scaled) (halves : Halves) : Significant :=
  let point := x.point
  let found := (List.range 17).findSome? fun n =>
    let e := point - (n + 1 : Nat)
    (x.onGrid halves e).map fun d => significant d e
  found.getD (significant (x.floorAt (point - 17)) (point - 17))

end Scaled

/-- **How significant digits are laid out as text.** -/
structure Layout where
  /-- The exponents of the leading digit that are written positionally;
  without bounds, all of them. Other exponents are written behind the
  digits, with a sign. -/
  positional : Option (Int × Int)
  /-- Whether a whole number carries a point and a zero. -/
  wholePoint : Bool
  /-- Which of two equally near decimals is taken. -/
  halves : Halves

namespace Layout

/-- Digits around a point that stands inside or outside of them. -/
def positionalText (layout : Layout) (s : Significant) : List Char :=
  if s.point ≤ 0 then
    ['0', '.'] ++ List.replicate (-s.point).toNat '0' ++ s.digits
  else if s.digits.length ≤ s.point.toNat then
    s.digits ++ List.replicate (s.point.toNat - s.digits.length) '0'
      ++ (if layout.wholePoint then ['.', '0'] else [])
  else
    s.digits.take s.point.toNat ++ '.' :: s.digits.drop s.point.toNat

/-- Digits with one of them before the point, and an exponent. -/
def scientificText (s : Significant) : List Char :=
  let exponent := s.point - 1
  s.digits.take 1 ++ (if s.digits.length ≤ 1 then [] else '.' :: s.digits.drop 1)
    ++ 'e' :: (if exponent < 0 then '-' else '+') :: digits exponent.natAbs

/-- The text of a magnitude. -/
def magnitudeText (layout : Layout) (x : Scaled) : List Char :=
  if x.m = 0 then '0' :: (if layout.wholePoint then ['.', '0'] else [])
  else
    let s := x.shortest layout.halves
    match layout.positional with
    | none => layout.positionalText s
    | some (least, greatest) =>
      if least ≤ s.point - 1 && s.point - 1 ≤ greatest then layout.positionalText s
      else scientificText s

/-- **The text of a finite number.** The sign of zero is written. -/
def text {f : Format} (layout : Layout) (x : Finite f) : List Char :=
  (if x.negative then ['-'] else []) ++ layout.magnitudeText x.scaled

end Layout

/-- **A number written out in full**: never an exponent, and no point
unless a fraction follows it. -/
def plainLayout : Layout := ⟨none, false, .up⟩

/-- The display text of a number or special value. -/
def Extended.display {f : Format} : Extended f → String
  | .finite x => String.ofList (plainLayout.text x)
  | .infinite negative => if negative then "-inf" else "inf"
  | .notANumber => "NaN"

/-- A quotient with one decimal place, a half going to the even digit. -/
def oneDecimal (num den : Nat) : List Char :=
  let tenths := roundDiv (10 * num) den
  digits (tenths / 10) ++ ['.', digitChar (tenths % 10)]

end Colloquy.Decimal
