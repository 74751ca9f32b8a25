/-!
# Powers

The powers of two and ten that bound words of memory and scale decimal digits.
-/

namespace ExprGate

/-- A power of two. -/
def twoTo (n : Nat) : Nat := Nat.pow 2 n

/-- A power of ten. -/
def tenTo (n : Nat) : Nat := Nat.pow 10 n

/-- The number of values of a word of 64 bits. -/
def wordBound : Nat := twoTo 64

end ExprGate
