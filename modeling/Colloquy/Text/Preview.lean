import Colloquy.Decimal.Shortest

/-!
# Short forms for reports

The first characters of a text, with three dots where some are missing,
and token counts rounded to one decimal of thousands or millions.
-/

namespace Colloquy.Text

/-- **The first characters of a text.** -/
def firstChars (n : Nat) (s : String) : String :=
  String.ofList (s.toList.take n)

/-- **A preview**: at most so many characters, and three dots if there are
more. -/
def preview (n : Nat) (s : String) : String :=
  if n < s.toList.length then firstChars n s ++ "..." else firstChars n s

/-- A text on one line: line feeds become blanks. -/
def onOneLine (s : String) : String :=
  String.ofList (s.toList.map fun c => if c = '\n' then ' ' else c)

/-- A counter in units of so many, with one decimal. The counter and then
the quotient are taken to the nearest double before the decimals are cut,
which is seen where the exact quotient lies in the middle of two tenths. -/
def inUnits (count unit : Nat) : List Char :=
  let quotient := do
    let x ← Decimal.Finite.nearest? Decimal.doubleFormat false count 1
    x.divideBy? (← Decimal.Finite.nearest? Decimal.doubleFormat false unit 1)
  match quotient with
  | some x => Decimal.oneDecimal x.numerator x.denominator
  | none => Decimal.digits count

/-- **A counter for people**: as it is below a thousand, then in thousands
and in millions with one decimal. -/
def humanized (count : Nat) : String :=
  if count < 1000 then String.ofList (Decimal.digits count)
  else if count < 1000000 then String.ofList (inUnits count 1000 ++ ['k'])
  else String.ofList (inUnits count 1000000 ++ ['M'])

end Colloquy.Text
