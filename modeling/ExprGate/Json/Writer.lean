import ExprGate.Json.Basic

/-!
# Writing JSON

The compact form without any blanks, and the indented form with one item or member on a line. A
string escapes the quotation mark, the backslash and the characters below U+0020, and nothing else.
-/

namespace ExprGate

/-- A point and the digits after it, if there are any. -/
def fractionText : Option Text → Text
  | some digits => '.' :: digits
  | none => []

/-- An exponent with its sign, if there is one. -/
def exponentText : Option (Bool × Text) → Text
  | some (negative, digits) => 'e' :: (if negative then '-' else '+') :: digits
  | none => []

/-- The number as JSON writes it. -/
def Numeral.text (n : Numeral) : Text :=
  (if n.negative then ['-'] else []) ++ n.whole ++ fractionText n.fraction ++
    exponentText n.exponent

namespace Json

/-- The hexadecimal digit with the given value below 16. -/
def hexDigit (n : Nat) : Char := Nat.digitChar n

/-- A character inside a string. -/
def escape (c : Char) : Text :=
  if c = '"' then ['\\', '"']
  else if c = '\\' then ['\\', '\\']
  else if c = '\x08' then ['\\', 'b']
  else if c = '\t' then ['\\', 't']
  else if c = '\n' then ['\\', 'n']
  else if c = '\x0c' then ['\\', 'f']
  else if c = '\r' then ['\\', 'r']
  else if c.toNat < 0x20 then
    ['\\', 'u', '0', '0', hexDigit (c.toNat / 16), hexDigit (c.toNat % 16)]
  else [c]

/-- A string with its quotation marks. -/
def quote (t : Text) : Text := '"' :: t.flatMap escape ++ ['"']

mutual

/-- The value without any blanks. -/
def compact : Json → Text
  | null => "null".toList
  | bool true => "true".toList
  | bool false => "false".toList
  | number n => n.text
  | string t => quote (t.getD [])
  | array items => '[' :: compactItems items ++ [']']
  | object members => '\x7b' :: compactMembers members ++ ['\x7d']

/-- The items of an array, with commas between them. -/
def compactItems : List Json → Text
  | [] => []
  | [item] => compact item
  | item :: items => compact item ++ ',' :: compactItems items

/-- The members of an object, with commas between them. -/
def compactMembers : List (Option Text × Json) → Text
  | [] => []
  | [(name, value)] => quote (name.getD []) ++ ':' :: compact value
  | (name, value) :: members =>
    quote (name.getD []) ++ ':' :: compact value ++ ',' :: compactMembers members

end

/-- A line break and the indentation of the given depth. -/
def newline (depth : Nat) : Text := '\n' :: List.replicate (2 * depth) ' '

mutual

/-- The value with every item and member on a line of its own, indented by two spaces a level. -/
def indented (depth : Nat) : Json → Text
  | null => "null".toList
  | bool true => "true".toList
  | bool false => "false".toList
  | number n => n.text
  | string t => quote (t.getD [])
  | array [] => ['[', ']']
  | array (item :: items) => '[' :: indentedItems (depth + 1) (item :: items) ++
      newline depth ++ [']']
  | object [] => ['\x7b', '\x7d']
  | object (member :: members) => '\x7b' :: indentedMembers (depth + 1) (member :: members) ++
      newline depth ++ ['\x7d']

/-- The items of an array, each on a line of its own. -/
def indentedItems (depth : Nat) : List Json → Text
  | [] => []
  | [item] => newline depth ++ indented depth item
  | item :: items => newline depth ++ indented depth item ++ ',' :: indentedItems depth items

/-- The members of an object, each on a line of its own. -/
def indentedMembers (depth : Nat) : List (Option Text × Json) → Text
  | [] => []
  | [(name, value)] => newline depth ++ quote (name.getD []) ++ ": ".toList ++ indented depth value
  | (name, value) :: members =>
    newline depth ++ quote (name.getD []) ++ ": ".toList ++ indented depth value ++
      ',' :: indentedMembers depth members

end

/-- The value in the indented form. -/
def pretty (j : Json) : Text := indented 0 j

end Json

end ExprGate
