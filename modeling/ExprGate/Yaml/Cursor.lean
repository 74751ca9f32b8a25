import ExprGate.Yaml.Character

/-!
# Positions in a YAML text

Structure in YAML hangs on columns. A cursor is what remains of a text, together with where that
begins: the column, the line, and whether a key, an entry mark or a block may start there.
-/

namespace ExprGate.Yaml

/-- A position in a text. -/
structure Cursor where
  /-- What remains of the text. -/
  rest : Text
  /-- The number of characters before the position in its line. -/
  column : Nat
  /-- The number of lines before that line. -/
  line : Nat
  /-- Whether a key or a mark of block structure may start here: always at the start of a line, and
  behind the marks of entries. -/
  fresh : Bool
  deriving DecidableEq, Repr

namespace Cursor

/-- The position in front of a text. -/
def start (t : Text) : Cursor := { rest := t, column := 0, line := 0, fresh := true }

/-- The position after some characters of the same line, with what may start there. -/
def advance (cur : Cursor) (count : Nat) (fresh : Bool) : Cursor :=
  { cur with rest := cur.rest.drop count, column := cur.column + count, fresh }

/-- Moves past blanks, comments and line breaks. A tab is passed only inside brackets and where
nothing may start. The flag `comment` says whether the position is inside a comment. -/
def skipFrom (inFlow : Bool) : Bool → Bool → Text → Nat → Nat → Cursor
  | fresh, _, [], column, line => { rest := [], column, line, fresh }
  | fresh, comment, c :: rest, column, line =>
    if isBreak c then skipFrom inFlow (fresh || !inFlow) false rest 0 (line + 1)
    else if comment || c == '#' then skipFrom inFlow fresh true rest (column + 1) line
    else if c == ' ' || (c == '\t' && (inFlow || !fresh)) || (c == '\ufeff' && column == 0) then
      skipFrom inFlow fresh false rest (column + 1) line
    else { rest := c :: rest, column, line, fresh }

/-- The next position at which something stands. -/
def skip (inFlow : Bool) (cur : Cursor) : Cursor :=
  skipFrom inFlow cur.fresh false cur.rest cur.column cur.line

/-- Whether the document ends at a position: with the text, or with a line that separates
documents. -/
def atEnd (cur : Cursor) : Bool :=
  cur.rest.isEmpty || (cur.column == 0 && isDocumentMarker cur.rest)

/-- Whether a mark of block structure stands at a position: the character, and a blank after it. -/
def atMark (cur : Cursor) (mark : Char) : Bool :=
  match cur.rest with
  | c :: rest => c == mark && endsWord rest
  | [] => false

/-- A key lies in one line and has at most this many characters. -/
def maxKeyLength : Nat := 1024

/-- Whether what lies between two positions can be a key. -/
def spansKey (first last : Cursor) : Bool :=
  first.line == last.line && first.rest.length - last.rest.length ≤ maxKeyLength

end Cursor

end ExprGate.Yaml
