import ExprGate.Yaml.Character
import ExprGate.Yaml.Node
import ExprGate.Yaml.PlainMeaning

/-!
# Writing YAML scalars

A text is written in the plainest style that reads back as the same text: plain when nothing in it
could be taken for structure or for something other than a text, as a block of lines when it holds
line breaks, between single quotation marks otherwise, and between double ones when some character
has to be escaped. Lines are never folded.
-/

namespace ExprGate.Yaml

/-! ## Choosing a style -/

/-- Whether a character of the first kind stands right before one of the second kind. -/
def hasPair (first second : Char → Bool) : Text → Bool
  | c :: d :: rest => (first c && second d) || hasPair first second (d :: rest)
  | _ => false

/-- The space. -/
def isSpace (c : Char) : Bool := c == ' '

/-- Whether a character satisfies the test and is the first of the text. -/
def firstIs (test : Char → Bool) (t : Text) : Bool := t.head?.any test

/-- Whether a character satisfies the test and is the last of the text. -/
def lastIs (test : Char → Bool) (t : Text) : Bool := t.getLast?.any test

/-- Whether the start of a text could be taken for structure. -/
def startsLikeStructure : Text → Bool
  | [] => false
  | c :: rest =>
    isMark c || ((c == '?' || c == ':' || c == '-') && endsWord rest) ||
      startsWithTriple (c :: rest)

/-- Whether, after the start of a text, a colon before a blank or a number sign after one could be
taken for structure. -/
def holdsStructure : Text → Bool
  | b :: c :: rest =>
    (c == ':' && endsWord rest) || (c == '#' && (isGap b || isBreak b)) ||
      holdsStructure (c :: rest)
  | _ => false

/-- Whether a text has to be escaped: some character is not printable, or a line ends in a
space. -/
def needsEscapes (t : Text) : Bool := !t.all isPrintable || hasPair isSpace isBreak t

/-- Whether a text can be written without quotation marks. -/
def allowsPlain (t : Text) : Bool :=
  !needsEscapes t && !t.any isBreak && !firstIs isSpace t && !lastIs isSpace t &&
    !startsLikeStructure t && !holdsStructure t

/-- Whether a text can be written between single quotation marks: no line may start with a
space. -/
def allowsSingleQuotes (t : Text) : Bool := !needsEscapes t && !hasPair isBreak isSpace t

/-- Whether a text can be written as a block of lines. -/
def allowsLiteral (t : Text) : Bool := !needsEscapes t && !lastIs isSpace t

/-- The style in which a text is written. -/
def styleOf (t : Text) : Style :=
  if t.contains '\n' then
    if allowsLiteral t then .literal else .doubleQuoted
  else if !hasPlainMeaning t && allowsPlain t then .plain
  else if allowsSingleQuotes t then .singleQuoted
  else .doubleQuoted

/-! ## The styles -/

/-- The spaces that start a line of the given depth. -/
def margin (depth : Nat) : Text := List.replicate depth ' '

/-- The inside of single quotation marks: the mark itself is doubled, and a line starts at the
given depth. -/
def singleQuotedFrom (depth : Nat) (startsLine : Bool) : Text → Text
  | [] => if startsLine then margin depth else []
  | c :: rest =>
    if isSpace c then c :: singleQuotedFrom depth startsLine rest
    else if isBreak c then c :: singleQuotedFrom depth true rest
    else (if startsLine then margin depth else []) ++
      (if c = '\'' then ['\'', '\''] else [c]) ++ singleQuotedFrom depth false rest

/-- The hexadecimal digits of a number, in capitals, with zeros in front up to the given
number of places. -/
def hexDigits (places n : Nat) : Text :=
  let digits := (Nat.toDigits 16 n).map Char.toUpper
  List.replicate (places - digits.length) '0' ++ digits

/-- A character inside double quotation marks. -/
def doubleQuotedChar (c : Char) : Text :=
  let n := c.toNat
  if c = '"' then ['\\', '"']
  else if c = '\\' then ['\\', '\\']
  else if isPrintable c && !isBreak c then [c]
  else if n = 0x00 then ['\\', '0']
  else if n = 0x07 then ['\\', 'a']
  else if n = 0x08 then ['\\', 'b']
  else if n = 0x09 then ['\\', 't']
  else if n = 0x0A then ['\\', 'n']
  else if n = 0x0B then ['\\', 'v']
  else if n = 0x0C then ['\\', 'f']
  else if n = 0x0D then ['\\', 'r']
  else if n = 0x1B then ['\\', 'e']
  else if n = 0x85 then ['\\', 'N']
  else if n = 0x2028 then ['\\', 'L']
  else if n = 0x2029 then ['\\', 'P']
  else if n ≤ 0xFF then '\\' :: 'x' :: hexDigits 2 n
  else if n ≤ 0xFFFF then '\\' :: 'u' :: hexDigits 4 n
  else '\\' :: 'U' :: hexDigits 8 n

/-- How a block says what becomes of its last line breaks: nothing when the text ends in exactly
one, a minus sign when it ends in none, a plus sign when it ends in more. -/
def chompingMark (t : Text) : Text :=
  match t.reverse with
  | [] => ['-']
  | [c] => if isBreak c then ['+'] else ['-']
  | c :: d :: _ => if !isBreak c then ['-'] else if isBreak d then ['+'] else []

/-- How a block says how deep it is, when its first line does not show that. -/
def depthMark (t : Text) : Text := if firstIs (fun c => isSpace c || isBreak c) t then ['2'] else []

/-- The lines of a block, each that is not empty at the given depth. -/
def literalFrom (depth : Nat) (startsLine : Bool) : Text → Text
  | [] => if startsLine then [] else ['\n']
  | c :: rest =>
    if isBreak c then c :: literalFrom depth true rest
    else (if startsLine then margin depth else []) ++ c :: literalFrom depth false rest

/-- A scalar up to the end of its line. Lines that belong to it start at the given depth. -/
def scalarLine (depth : Nat) (t : Text) : Text :=
  match styleOf t with
  | .plain => t ++ ['\n']
  | .singleQuoted => '\'' :: singleQuotedFrom depth false t ++ ['\'', '\n']
  | .literal | .folded =>
    '|' :: depthMark t ++ chompingMark t ++ '\n' :: literalFrom depth true t
  | .doubleQuoted => '"' :: t.flatMap doubleQuotedChar ++ ['"', '\n']

end ExprGate.Yaml
