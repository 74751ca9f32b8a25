import ExprGate.Yaml.Cursor
import ExprGate.Yaml.PlainMeaning

/-!
# Reading YAML scalars

The texts of scalars in the five styles. In the plain and the quoted styles a single line break
counts as a space and more than one as one break less; in the block styles the lines keep their
breaks, or are folded into paragraphs, and the mark of the block decides about its last breaks.
-/

namespace ExprGate.Yaml

/-- A text that was read, in front of what follows it. -/
def after (t : Text) (result : Option (Text × Cursor)) : Option (Text × Cursor) :=
  result.map fun (text, cur) => (t ++ text, cur)

/-! ## Blanks between words -/

/-- The blanks since the last word. -/
inductive Gap
  /-- Blanks of one line. -/
  | inLine (blanks : Text)
  /-- Line breaks, and blanks around them that do not count. -/
  | broken (breaks : Text)
  /-- The line breaks after one that was escaped. -/
  | continued (breaks : Text)
  deriving DecidableEq, Repr

namespace Gap

/-- No blanks. -/
def none : Gap := inLine []

/-- One more blank. -/
def push (gap : Gap) (c : Char) : Gap :=
  match gap with
  | inLine blanks => if isBreak c then broken [c] else inLine (blanks ++ [c])
  | broken breaks => if isBreak c then broken (breaks ++ [c]) else gap
  | continued breaks => if isBreak c then continued (breaks ++ [c]) else gap

/-- Whether a line was broken. -/
def isBroken : Gap → Bool
  | inLine _ => false
  | _ => true

/-- Whether there are no blanks at all. -/
def isNone (gap : Gap) : Bool := gap == none

/-- What the blanks between two words amount to. -/
def text : Gap → Text
  | inLine blanks => blanks
  | broken ['\n'] => [' ']
  | broken ('\n' :: more) => more
  | broken breaks => breaks
  | continued breaks => breaks

end Gap

/-! ## Plain scalars -/

/-- Whether a plain scalar starts with a text. -/
def startsPlain (inFlow : Bool) : Text → Bool
  | [] => false
  | c :: rest =>
    if c == '-' then !endsWord rest
    else if c == '?' || c == ':' then !inFlow && !endsWord rest
    else !(isGap c || isBreak c || isMark c)

/-- Reads a plain scalar from inside. It ends at a colon before a blank, at a comment, at the end
of the document, inside brackets at a mark of structure, and outside of them at a line that does
not start at the column `least` or later. What follows is the position after the blanks. -/
def readPlainFrom (inFlow : Bool) (least : Nat) :
    Gap → Text → Nat → Nat → Option (Text × Cursor)
  | gap, [], column, line => some ([], { rest := [], column, line, fresh := gap.isBroken })
  | gap, c :: rest, column, line =>
    if isBreak c then readPlainFrom inFlow least (gap.push c) rest 0 (line + 1)
    else if isGap c then
      if gap.isBroken && c == '\t' && column < least then none
      else readPlainFrom inFlow least (gap.push c) rest (column + 1) line
    else if (!gap.isNone &&
          ((!inFlow && column < least) || c == '#' ||
            (column == 0 && isDocumentMarker (c :: rest)))) ||
        (c == ':' && endsWord rest) || (inFlow && isFlowMark c) then
      some ([], { rest := c :: rest, column, line, fresh := gap.isBroken })
    else if inFlow && c == ':' && rest.head?.any (fun d => isFlowMark d || d == '?') then none
    else after (gap.text ++ [c]) (readPlainFrom inFlow least .none rest (column + 1) line)

/-! ## Quoted scalars -/

/-- Reads a scalar between single quotation marks after the first of them. -/
def readSingleQuoted : Gap → Text → Nat → Nat → Option (Text × Cursor)
  | _, [], _, _ => none
  | gap, c :: rest, column, line =>
    if isBreak c then readSingleQuoted (gap.push c) rest 0 (line + 1)
    else if isGap c then readSingleQuoted (gap.push c) rest (column + 1) line
    else if column == 0 && isDocumentMarker (c :: rest) then none
    else if c == '\'' then
      match rest with
      | '\'' :: rest => after (gap.text ++ ['\'']) (readSingleQuoted .none rest (column + 2) line)
      | rest => some (gap.text, { rest, column := column + 1, line, fresh := false })
    else after (gap.text ++ [c]) (readSingleQuoted .none rest (column + 1) line)

/-- The character that an escape of one letter stands for. -/
def escaped? (c : Char) : Option Char :=
  if c = '0' then some '\x00'
  else if c = 'a' then some '\x07'
  else if c = 'b' then some '\x08'
  else if c = 't' ∨ c = '\t' then some '\t'
  else if c = 'n' then some '\n'
  else if c = 'v' then some '\x0b'
  else if c = 'f' then some '\x0c'
  else if c = 'r' then some '\r'
  else if c = 'e' then some '\x1b'
  else if c = ' ' ∨ c = '"' ∨ c = '/' ∨ c = '\\' then some c
  else if c = 'N' then some '\u0085'
  else if c = '_' then some '\u00a0'
  else if c = 'L' then some '\u2028'
  else if c = 'P' then some '\u2029'
  else none

/-- The number of digits of an escape by number. -/
def escapeLength? (c : Char) : Option Nat :=
  if c = 'x' then some 2 else if c = 'u' then some 4 else if c = 'U' then some 8 else none

/-- The character of the given number, which is no half of a surrogate pair. -/
def charOf? (n : Nat) : Option Char := if n.isValidChar then some (Char.ofNat n) else none

/-- Where a reader is inside double quotation marks. -/
inductive Quoting
  /-- Between characters, after the given blanks. -/
  | open (gap : Gap)
  /-- Behind a backslash. -/
  | escape
  /-- Inside an escape by number, which needs so many further digits. -/
  | digits (missing : Nat) (value : Nat)
  deriving DecidableEq, Repr

/-- Reads a scalar between double quotation marks after the first of them. -/
def readDoubleQuoted : Quoting → Text → Nat → Nat → Option (Text × Cursor)
  | _, [], _, _ => none
  | .open gap, c :: rest, column, line =>
    if isBreak c then readDoubleQuoted (.open (gap.push c)) rest 0 (line + 1)
    else if isGap c then readDoubleQuoted (.open (gap.push c)) rest (column + 1) line
    else if column == 0 && isDocumentMarker (c :: rest) then none
    else if c == '"' then
      some (gap.text, { rest, column := column + 1, line, fresh := false })
    else if c == '\\' then after gap.text (readDoubleQuoted .escape rest (column + 1) line)
    else after (gap.text ++ [c]) (readDoubleQuoted (.open .none) rest (column + 1) line)
  | .escape, c :: rest, column, line =>
    if isBreak c then readDoubleQuoted (.open (.continued [])) rest 0 (line + 1)
    else
      match escaped? c, escapeLength? c with
      | some d, _ => after [d] (readDoubleQuoted (.open .none) rest (column + 1) line)
      | none, some length => readDoubleQuoted (.digits length 0) rest (column + 1) line
      | none, none => none
  | .digits missing value, c :: rest, column, line =>
    match digit? 16 c with
    | none => none
    | some d =>
      let value := value * 16 + d
      if missing ≤ 1 then
        match charOf? value with
        | some e => after [e] (readDoubleQuoted (.open .none) rest (column + 1) line)
        | none => none
      else readDoubleQuoted (.digits (missing - 1) value) rest (column + 1) line

/-! ## Blocks of lines -/

/-- What becomes of the last line breaks of a block. -/
inductive Chomping
  /-- None is kept. -/
  | strip
  /-- The first is kept. -/
  | clip
  /-- All are kept. -/
  | keep
  deriving DecidableEq, Repr

/-- The lines of a block and what follows it. While the reader is inside a line, `head` is what
remains of that line. -/
structure Block where
  /-- The rest of the line that the reader is in. -/
  head : Text
  /-- The line breaks after it. -/
  breaks : Text
  /-- The further lines, each with the line breaks after it. -/
  lines : List (Text × Text)
  /-- The position after the block. -/
  next : Cursor

/-- Reads lines that start at the column `depth`, up to the first line that starts before it. -/
def readLines (depth : Nat) : Bool → Text → Nat → Nat → Option Block
  | _, [], column, line => some ⟨[], [], [], { rest := [], column, line, fresh := true }⟩
  | inLine, c :: rest, column, line =>
    if isBreak c then
      (readLines depth false rest 0 (line + 1)).map fun b =>
        { b with head := [], breaks := c :: b.breaks }
    else if inLine || depth ≤ column then
      (readLines depth true rest (column + 1) line).map fun b =>
        if inLine then { b with head := c :: b.head }
        else { b with head := [], breaks := [], lines := (c :: b.head, b.breaks) :: b.lines }
    else if c == ' ' then readLines depth false rest (column + 1) line
    else if c == '\t' then none
    else some ⟨[], [], [], { rest := c :: rest, column, line, fresh := true }⟩

/-- The column of the deepest line up to and including the first that is not empty. A tab must not
stand in front of a line. -/
def firstDepth? : Text → Nat → Option Nat
  | [], column => some column
  | c :: rest, column =>
    if isBreak c then (firstDepth? rest 0).map (max column)
    else if c == ' ' then firstDepth? rest (column + 1)
    else if c == '\t' then none
    else some column

/-- Whether a line starts with a blank. -/
def startsBlank (line : Text) : Bool := line.head?.any isGap

/-- The text of the lines of a block. Folded lines become one unless one of them starts with a
blank. -/
def joinLines (folded : Bool) (chomping : Chomping) : List (Text × Text) → Text
  | [] => []
  | [(line, breaks)] =>
    match chomping with
    | .strip => line
    | .clip => line ++ breaks.take 1
    | .keep => line ++ breaks
  | (line, breaks) :: (next, breaks') :: lines =>
    let joint :=
      if folded && !startsBlank line && !startsBlank next then (Gap.broken breaks).text
      else breaks
    line ++ joint ++ joinLines folded chomping ((next, breaks') :: lines)

/-- The text of a block, with the line breaks before its first line. -/
def Block.text (folded : Bool) (chomping : Chomping) (block : Block) : Text :=
  match block.lines with
  | [] => if chomping = .keep then block.breaks else []
  | lines => block.breaks ++ joinLines folded chomping lines

/-- Reads the marks after the one that starts a block: at most one for the last line breaks and one
digit for the depth, in either order. -/
def readBlockMarks (t : Text) : Option (Chomping × Option Nat × Text) :=
  let chomping? (c : Char) : Option Chomping :=
    if c = '+' then some .keep else if c = '-' then some .strip else none
  let depth? (c : Char) : Option Nat := if c.isDigit then some (digitValue c) else none
  let found : Chomping × Option Nat × Text :=
    match t with
    | [] => (.clip, none, t)
    | c :: rest =>
      match chomping? c, depth? c, rest with
      | some chomping, _, d :: more =>
        match depth? d with
        | some depth => (chomping, some depth, more)
        | none => (chomping, none, rest)
      | some chomping, _, [] => (chomping, none, rest)
      | none, some depth, d :: more =>
        match chomping? d with
        | some chomping => (chomping, some depth, more)
        | none => (.clip, some depth, rest)
      | none, some depth, [] => (.clip, some depth, rest)
      | none, none, _ => (.clip, none, t)
  if found.2.1 = some 0 then none else some found

/-- The text after a line that holds nothing but blanks and a comment. -/
def restOfLine? (t : Text) : Option Text :=
  let t := t.dropWhile isGap
  let t := if t.head? = some '#' then t.dropWhile (!isBreak ·) else t
  match t with
  | [] => some []
  | c :: rest => if isBreak c then some rest else none

/-- Reads a block after the mark that starts it. Its lines start at the column `least` or later:
where the digit of the block says, and otherwise where the first of them that is not empty
starts. -/
def readBlock (folded : Bool) (least : Nat) (t : Text) (line : Nat) : Option (Text × Cursor) := do
  let (chomping, depth, t) ← readBlockMarks t
  let t ← restOfLine? t
  let depth ←
    match depth with
    | some d => some (least - 1 + d)
    | none => (firstDepth? t 0).map fun d => max d (max least 1)
  let block ← readLines depth false t 0 (line + 1)
  return (block.text folded chomping, block.next)

end ExprGate.Yaml
