import ExprGate.Text.Basic
import ExprGate.Text.Unshown

/-!
# Quoted texts

A text between quotation marks, fit for one line of a report: characters that would not show, or
would end the quotation, are escaped. In the quotation of a path the apostrophe is escaped as well.
-/

namespace ExprGate.Text

/-- A character inside a quotation, where the given marks take a backslash. -/
def quotedChar (marks : List Char) (c : Char) : Text :=
  if marks.contains c then ['\\', c]
  else if c = '\n' then ['\\', 'n']
  else if c = '\r' then ['\\', 'r']
  else if c = '\t' then ['\\', 't']
  else if c = '\x00' then ['\\', '0']
  else if isUnshown c then
    ['\\', 'u', '\x7b'] ++ Nat.toDigits 16 c.toNat ++ ['\x7d']
  else [c]

/-- A text between quotation marks. -/
def quoted (t : Text) : Text := '"' :: t.flatMap (quotedChar ['"', '\\']) ++ ['"']

/-- A path between quotation marks. -/
def quotedPath (t : Text) : Text := '"' :: t.flatMap (quotedChar ['"', '\\', '\'']) ++ ['"']

end ExprGate.Text
