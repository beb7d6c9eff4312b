/-!
# Edit distance

How many single characters have to be inserted, deleted or replaced to
turn one text into another, found row by row: behind a part of the first
text, a row has the distances to all parts of the second one that end
before its first, second, … character.
-/

namespace Colloquy.Text

/-- A row from the one above, to the right of its first entry. `left` is
the entry before; of the row above, the first entry is the one above
`left`. -/
def extendRow (c : Char) : Nat → List Char → List Nat → List Nat
  | left, d :: ds, diagonal :: above :: row =>
    let entry := min (min (above + 1) (left + 1)) (diagonal + if c = d then 0 else 1)
    entry :: extendRow c entry ds (above :: row)
  | _, _, _ => []

/-- The row behind one more character of the first text. -/
def nextRow (c : Char) (ds : List Char) (row : List Nat) : List Nat :=
  let left := row.headD 0 + 1
  left :: extendRow c left ds row

/-- The row behind a part of the first text, from the one before it. -/
def lastRow (ds : List Char) : List Nat → List Char → List Nat
  | row, [] => row
  | row, c :: cs => lastRow ds (nextRow c ds row) cs

/-- **The edit distance of two texts.** -/
def editDistance (a b : String) : Nat :=
  (lastRow b.toList (List.range (b.toList.length + 1)) a.toList).getLastD 0

end Colloquy.Text
