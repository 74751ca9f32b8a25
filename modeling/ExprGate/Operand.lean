import ExprGate.Pattern

/-!
# Numeric operands

A calculation needs something to calculate with: a digit, or one of the constants pi and e written
as a word.
-/

namespace ExprGate

/-- The constants pi and e as whole words. -/
def namedConstant : Pattern :=
  .all [.boundary, .phrases ["pi", "e"], .boundary]

/-- Whether the text has a digit or names a constant. -/
def hasNumericOperand (text : Text) : Bool :=
  Pattern.occursIn (.one .digit) text || namedConstant.occursIn text

end ExprGate
