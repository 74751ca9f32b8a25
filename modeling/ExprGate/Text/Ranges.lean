/-!
# Character classes by range

A Unicode property holds on a few hundred ranges of code points. A class is written as the list of
points at which membership changes, in increasing order, beginning outside the class: a code point
is inside exactly when an odd number of changes lies at or below it.
-/

namespace ExprGate

/-- Membership of a character in the class with the given points of change. -/
def inRanges (changes : List Nat) (c : Char) : Bool :=
  (changes.takeWhile (· ≤ c.toNat)).length % 2 == 1

end ExprGate
