/-!
# Powers of two and of ten

The powers that decimals and binary numbers are made of.
-/

namespace Colloquy.Decimal

/-- A power of two. -/
def twoTo (n : Nat) : Nat := Nat.pow 2 n

/-- A power of ten. -/
def tenTo (n : Nat) : Nat := Nat.pow 10 n

end Colloquy.Decimal
