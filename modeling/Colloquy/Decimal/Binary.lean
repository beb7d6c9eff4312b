import Colloquy.Decimal.Powers

/-!
# Binary floating-point numbers, exactly

A number of a binary interchange format is a sign and a magnitude; the
magnitude is kept as the number its bits spell, which counts the
representable magnitudes from zero upwards. Everything is decided on
naturals: `Format.scaled` says which multiple of which power of two a
magnitude is, and `Format.nearest` which magnitude is nearest to a given
quotient, a half going to the even neighbour. Arithmetic is then exact
arithmetic followed by one rounding.
-/

namespace Colloquy.Decimal

/-- **A binary interchange format**: how many bits the fraction and the
exponent take. -/
structure Format where
  /-- Bits of the fraction, the leading one not counted. -/
  fractionBits : Nat
  /-- Bits of the exponent. -/
  exponentBits : Nat
deriving DecidableEq, Repr

/-- The format of eight bytes. -/
def doubleFormat : Format := ⟨52, 11⟩

/-- The format of four bytes. -/
def singleFormat : Format := ⟨23, 8⟩

/-- **A magnitude read as a scaled integer** – the number `m * 2 ^ q`. -/
structure Scaled where
  /-- The integer. -/
  m : Nat
  /-- The power of two it counts. -/
  q : Int
  /-- Whether the gap to the next magnitude below is half the gap to the
  next one above, as it is just above a power of two. -/
  narrowBelow : Bool
deriving DecidableEq, Repr

/-- The natural number nearest to a quotient; a half goes to the even
neighbour. -/
def roundDiv (num den : Nat) : Nat :=
  let quotient := num / den
  let twice := 2 * (num % den)
  if twice < den then quotient
  else if den < twice then quotient + 1
  else quotient + quotient % 2

namespace Format

/-- The power of two that the least positive magnitude is. -/
def leastPower (f : Format) : Int :=
  2 - (twoTo (f.exponentBits - 1) : Int) - f.fractionBits

/-- The first magnitude beyond the finite ones. -/
def top (f : Format) : Nat :=
  (twoTo f.exponentBits - 1) * twoTo f.fractionBits

/-- **What a magnitude is worth.** The lowest magnitudes are multiples of
the least power; from there on the exponent bits raise the power and the
fraction has a one in front. -/
def scaled (f : Format) (magnitude : Nat) : Scaled :=
  let exponent := magnitude / twoTo f.fractionBits
  let fraction := magnitude % twoTo f.fractionBits
  if exponent = 0 then ⟨fraction, f.leastPower, false⟩
  else ⟨twoTo f.fractionBits + fraction, f.leastPower + exponent - 1,
    fraction == 0 && 1 < exponent⟩

/-- **The magnitude nearest to a quotient**, where it is finite. The power
of two is chosen such that the rounded quotient fills the fraction, or is
the least power where the quotient is small; counting magnitudes makes
the two cases, and a quotient that rounds up to the next power, one
formula. -/
def nearest (f : Format) (num den : Nat) : Option Nat :=
  if num = 0 then some 0
  else
    let estimate : Int := (num.log2 : Int) - den.log2
    let exponent :=
      if num * twoTo (-estimate).toNat < den * twoTo estimate.toNat then estimate - 1
      else estimate
    let power := max (exponent - f.fractionBits) f.leastPower
    let m := roundDiv (num * twoTo (-power).toNat) (den * twoTo power.toNat)
    let magnitude := (power - f.leastPower).toNat * twoTo f.fractionBits + m
    if magnitude < f.top then some magnitude else none

end Format

/-- **A finite number** of a format. Zero has both signs. -/
structure Finite (f : Format) where
  /-- Whether the sign is minus. -/
  negative : Bool
  /-- The magnitude, counted from zero. -/
  magnitude : Nat
  /-- The magnitude is a finite one. -/
  finite : magnitude < f.top
deriving DecidableEq, Repr

/-- A finite number of eight bytes, as JSON texts hold. -/
abbrev Double := Finite doubleFormat

/-- **A number of a format, or one of its special values.** -/
inductive Extended (f : Format) where
  /-- A finite number. -/
  | finite (x : Finite f)
  /-- An infinity. -/
  | infinite (negative : Bool)
  /-- Not a number. -/
  | notANumber
deriving DecidableEq, Repr

/-- A number of four bytes, as a sampling temperature is held. -/
abbrev Single := Extended singleFormat

namespace Finite

variable {f : Format}

/-- The scaled integer a number is, its sign aside. -/
def scaled (x : Finite f) : Scaled :=
  f.scaled x.magnitude

/-- The numerator of a number, its sign aside. -/
def numerator (x : Finite f) : Nat :=
  x.scaled.m * twoTo x.scaled.q.toNat

/-- The denominator of a number: a power of two. -/
def denominator (x : Finite f) : Nat :=
  twoTo (-x.scaled.q).toNat

/-- The finite number nearest to a quotient, if any is. -/
def nearest? (f : Format) (negative : Bool) (num den : Nat) : Option (Finite f) :=
  match f.nearest num den with
  | none => none
  | some magnitude =>
    if h : magnitude < f.top then some ⟨negative, magnitude, h⟩ else none

/-- Zero, with a sign. -/
def zero (f : Format) (h : 0 < f.top) (negative : Bool) : Finite f :=
  ⟨negative, 0, h⟩

/-- **Multiplication by a finite number**, rounded once; the sign is the
first factor's. -/
def scaleBy? (x y : Finite f) : Option (Finite f) :=
  nearest? f x.negative (x.numerator * y.numerator) (x.denominator * y.denominator)

/-- **Division by a finite number**, rounded once; the sign is the
dividend's. -/
def divideBy? (x y : Finite f) : Option (Finite f) :=
  nearest? f x.negative (x.numerator * y.denominator) (x.denominator * y.numerator)

end Finite

namespace Extended

variable {f : Format}

/-- The number of the format nearest to a quotient; beyond the finite
numbers, the infinity of that sign. -/
def nearest (f : Format) (negative : Bool) (num den : Nat) : Extended f :=
  match Finite.nearest? f negative num den with
  | some x => .finite x
  | none => .infinite negative

/-- **The number nearest to a decimal** `digits * 10 ^ exponent`. A
decimal so large or so small that no format comes near it is decided by
its order of magnitude, before its power of ten is formed. -/
def nearestDecimal (f : Format) (negative : Bool) (significand : Nat)
    (exponent : Int) : Extended f :=
  let order := (significand.log2 : Int) + 3 * exponent
  if significand = 0 || (order < -4000 && exponent < 0) then
    nearest f negative 0 1
  else if 4000 < order && 0 < exponent then .infinite negative
  else
    nearest f negative (significand * tenTo exponent.toNat) (tenTo (-exponent).toNat)

/-- **Equality of values**: both zeros are equal, and what is not a number
equals nothing. -/
def equalValues : Extended f → Extended f → Bool
  | .finite x, .finite y =>
    x.magnitude == y.magnitude && (x.negative == y.negative || x.magnitude == 0)
  | .infinite a, .infinite b => a == b
  | _, _ => false

end Extended

end Colloquy.Decimal
