import ExprGate.Text.WordCharacter
import ExprGate.Text.Basic

/-!
# Patterns

A pattern describes where a phrase may lie in a text. Matching is by preference: `Pattern.ends`
lists every place at which a match that starts at a given place can end, the preferred one first,
and the answer is the head of that list at the leftmost place where the list is not empty. Letters
are compared without regard to case.
-/

namespace ExprGate

/-- The representative of a character under simple case folding, as far as it concerns the letters
of ASCII: besides the capitals, the long s folds to s and the Kelvin sign folds to k. -/
def foldCase (c : Char) : Char :=
  if c = '\u017F' then 's' else if c = '\u212A' then 'k' else c.toLower

/-- Whether a character folds to one of the letters a to z. -/
def isLatin (c : Char) : Bool :=
  let n := (foldCase c).toNat
  97 ≤ n && n ≤ 122

/-- The sets of characters that a pattern can ask for. -/
inductive CharSet
  /-- The one character that folds to the given one. -/
  | char (c : Char)
  /-- The blank characters. -/
  | blank
  /-- The digits 0 to 9. -/
  | digit
  /-- The letters a to z in any case. -/
  | latin
  deriving DecidableEq, Repr

/-- Whether a character belongs to the set. -/
def CharSet.accepts : CharSet → Char → Bool
  | char x, c => foldCase c == x
  | blank, c => isBlank c
  | digit, c => c.isDigit
  | latin, c => isLatin c

/-- A stretch of a text, known by what lies ahead at its two ends. -/
structure Stretch where
  /-- What lies ahead where the stretch begins. -/
  first : Text
  /-- What lies ahead where the stretch ends. -/
  last : Text
  deriving DecidableEq, Repr

/-- The text of a stretch. -/
def Stretch.text (s : Stretch) : Text := s.first.take (s.first.length - s.last.length)

/-- A place in a text reached by a match under way. -/
structure Place where
  /-- The text passed so far, the nearest character first. -/
  behind : Text
  /-- The text that lies ahead. -/
  ahead : Text
  /-- The operands recorded so far. -/
  operands : List Stretch
  deriving DecidableEq, Repr

namespace Place

/-- Whether exactly one of the two neighbours of the place is a word character. -/
def atBoundary (s : Place) : Bool :=
  s.behind.head?.any isWordCharacter != s.ahead.head?.any isWordCharacter

/-- The place after the next character, when that is in the set. -/
def step (set : CharSet) (s : Place) : List Place :=
  match s.ahead with
  | [] => []
  | c :: rest => if set.accepts c then [⟨c :: s.behind, rest, s.operands⟩] else []

/-- The places reached by passing over characters of the set, the nearest first. -/
def stations (set : CharSet) (operands : List Stretch) (behind : Text) : Text → List Place
  | [] => [⟨behind, [], operands⟩]
  | c :: rest =>
    ⟨behind, c :: rest, operands⟩ ::
      if set.accepts c then stations set operands (c :: behind) rest else []

/-- The places reached by passing over characters of the set, the farthest first. -/
def sweep (set : CharSet) (s : Place) : List Place :=
  (stations set s.operands s.behind s.ahead).reverse

/-- The stretch between a place and a later one. -/
def stretchTo (s e : Place) : Stretch := ⟨s.ahead, e.ahead⟩

/-- The later place `e`, with the stretch since `s` recorded as an operand. -/
def record (s e : Place) : Place := { e with operands := e.operands ++ [s.stretchTo e] }

end Place

/-- Descriptions of texts, with the order in which their readings are preferred. -/
inductive Pattern
  /-- No text. -/
  | never
  /-- The empty text. -/
  | nothing
  /-- The empty text, at a word boundary. -/
  | boundary
  /-- One character of the set. -/
  | one (set : CharSet)
  /-- Any number of characters of the set, preferably more. -/
  | many (set : CharSet)
  /-- A text of the first pattern and then one of the second. -/
  | seq (first second : Pattern)
  /-- A text of either pattern, preferably of the first. -/
  | either (first second : Pattern)
  /-- A text of the pattern, recorded as an operand. -/
  | operand (inner : Pattern)
  deriving DecidableEq, Repr

namespace Pattern

/-- Every place where a match from the given place can end, in order of preference. -/
def ends : Pattern → Place → List Place
  | never, _ => []
  | nothing, s => [s]
  | boundary, s => if s.atBoundary then [s] else []
  | one set, s => s.step set
  | many set, s => s.sweep set
  | seq p q, s => (p.ends s).flatMap q.ends
  | either p q, s => p.ends s ++ q.ends s
  | operand p, s => (p.ends s).map s.record

/-- The patterns one after another. -/
def all (ps : List Pattern) : Pattern := ps.foldr seq nothing

/-- Any of the patterns, preferably an early one. -/
def any (ps : List Pattern) : Pattern := ps.foldr either never

/-- The pattern or nothing, preferably the pattern. -/
def optionally (p : Pattern) : Pattern := either p nothing

/-- One character, in any case. -/
def char (c : Char) : Pattern := one (.char c)

/-- At least one character of the set, preferably more. -/
def atLeastOne (set : CharSet) : Pattern := seq (one set) (many set)

/-- At least one blank. -/
def blanks : Pattern := atLeastOne .blank

/-- Any number of blanks. -/
def gap : Pattern := many .blank

/-- The words of a phrase in any case, where a space stands for at least one blank. -/
def phrase (words : String) : Pattern :=
  all (words.toList.map fun c => if c = ' ' then blanks else char c)

/-- Any of the phrases, preferably an early one. -/
def phrases (choices : List String) : Pattern := any (choices.map phrase)

end Pattern

/-- An occurrence of a pattern in a text. -/
structure Match where
  /-- The text before the occurrence. -/
  before : Text
  /-- The occurrence itself. -/
  matched : Text
  /-- The text after the occurrence. -/
  after : Text
  /-- The operands recorded inside the occurrence. -/
  operands : List Text
  deriving DecidableEq, Repr

namespace Match

/-- The occurrence between two places. -/
def between (s e : Place) : Match :=
  ⟨s.behind.reverse, (s.stretchTo e).text, e.ahead, e.operands.map Stretch.text⟩

/-- The offset in bytes at which the occurrence starts. -/
def start (m : Match) : Nat := Text.utf8Length m.before

/-- The offset in bytes at which the occurrence ends. -/
def stop (m : Match) : Nat := m.start + Text.utf8Length m.matched

end Match

namespace Pattern

/-- The preferred match that starts right after `behind`. -/
def matchAt (p : Pattern) (behind ahead : Text) : Option Match :=
  ((p.ends ⟨behind, ahead, []⟩).head?).map (Match.between ⟨behind, ahead, []⟩)

/-- The leftmost match that starts after `behind`. -/
def search (p : Pattern) (behind : Text) : Text → Option Match
  | [] => p.matchAt behind []
  | c :: rest =>
    match p.matchAt behind (c :: rest) with
    | some m => some m
    | none => p.search (c :: behind) rest

/-- The leftmost match in the text. -/
def find (p : Pattern) (text : Text) : Option Match := p.search [] text

/-- Whether the pattern occurs in the text. -/
def occursIn (p : Pattern) (text : Text) : Bool := (p.find text).isSome

/-- The matches from left to right, each one beginning where the last one ended or later. A match
of the empty text ends the list. -/
def searchAll (p : Pattern) (behind ahead : Text) : List Match :=
  match p.search behind ahead with
  | none => []
  | some m =>
    if m.after.length < ahead.length then
      m :: p.searchAll (m.matched.reverse ++ m.before.reverse) m.after
    else [m]
termination_by ahead.length

/-- Every match in the text, from left to right without overlap. -/
def findAll (p : Pattern) (text : Text) : List Match := p.searchAll [] text

end Pattern

end ExprGate
