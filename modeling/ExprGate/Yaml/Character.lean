import ExprGate.Text.Basic

/-!
# Characters of YAML

The classes of characters that YAML distinguishes: line breaks, the gaps inside a line, the
characters that can be written as they are, and the marks that carry structure.
-/

namespace ExprGate.Yaml

/-- The characters that break a line. -/
def isBreak (c : Char) : Bool :=
  c == '\n' || c == '\r' || c == '\u0085' || c == '\u2028' || c == '\u2029'

/-- The blanks inside a line. -/
def isGap (c : Char) : Bool := c == ' ' || c == '\t'

/-- Whether a word that the text follows is over: the text is empty or starts with a blank. -/
def endsWord : Text → Bool
  | [] => true
  | c :: _ => isGap c || isBreak c

/-- The characters that can be read. -/
def isReadable (c : Char) : Bool :=
  let n := c.toNat
  n == 0x09 || n == 0x0A || n == 0x0D || (0x20 ≤ n && n ≤ 0x7E) || n == 0x85 ||
    (0xA0 ≤ n && n ≤ 0xFFFD) || 0x10000 ≤ n

/-- The characters that are written as they are. -/
def isPrintable (c : Char) : Bool :=
  let n := c.toNat
  n == 0x0A || (0x20 ≤ n && n ≤ 0x7E) || (0xA0 ≤ n && n ≤ 0xFFFD && n != 0xFEFF) || 0x10000 ≤ n

/-- The marks of structure inside brackets. -/
def isFlowMark (c : Char) : Bool :=
  c == ',' || c == '[' || c == ']' || c == '\x7b' || c == '\x7d'

/-- The marks that no plain scalar starts with, wherever they stand. -/
def isMark (c : Char) : Bool :=
  isFlowMark c || c == '#' || c == '&' || c == '*' || c == '!' || c == '|' || c == '>' ||
    c == '\'' || c == '"' || c == '%' || c == '@' || c == '\x60'

/-- Whether a text starts with three dashes or three dots. -/
def startsWithTriple : Text → Bool
  | '-' :: '-' :: '-' :: _ => true
  | '.' :: '.' :: '.' :: _ => true
  | _ => false

/-- Whether a line that starts this way separates documents. -/
def isDocumentMarker (t : Text) : Bool := startsWithTriple t && endsWord (t.drop 3)

end ExprGate.Yaml
