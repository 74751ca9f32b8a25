import ExprGate.Text.Basic

/-!
# JSON syntax

What a JSON text says before anyone asks for a particular kind of record: numbers keep their
digits, and the members of an object keep their order and their duplicates. Records are read from
this syntax and written through it.
-/

namespace ExprGate

/-- A number as JSON writes it. -/
structure Numeral where
  /-- Whether a minus sign comes first. -/
  negative : Bool
  /-- The digits before the point. -/
  whole : Text
  /-- The digits after the point, if there is one. -/
  fraction : Option Text
  /-- The exponent, if there is one: whether it is negative, and its digits. -/
  exponent : Option (Bool × Text)
  deriving DecidableEq, Repr

/-- A JSON value as it is written. A string is missing its text when one of its escapes names half
of a surrogate pair; such a string is well-formed, but it denotes no text. -/
inductive Json
  | null
  | bool (value : Bool)
  | number (numeral : Numeral)
  | string (text : Option Text)
  | array (items : List Json)
  | object (members : List (Option Text × Json))
  deriving Repr

namespace Json

/-- A string that denotes the given text. -/
def text (t : Text) : Json := string (some t)

/-- A natural number. -/
def nat (n : Nat) : Json := number ⟨false, natText n, none, none⟩

/-- An object with the given members, in order. -/
def record (members : List (String × Json)) : Json :=
  object (members.map fun (name, value) => (some name.toList, value))

/-- The blanks that may stand between the tokens of a JSON text. -/
def isSpace (c : Char) : Bool := c == ' ' || c == '\n' || c == '\t' || c == '\r'

end Json

end ExprGate
