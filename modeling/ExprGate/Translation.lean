import ExprGate.Text.Alphanumeric
import ExprGate.Pattern

/-!
# Translation of phrases

A constrained grammar of arithmetic phrases, given as an ordered table of rules. The first rule
that applies produces the whole notation from the operands it recorded; the text around its match
is dropped. Several rules overlap, so the order is part of the grammar.
-/

namespace ExprGate

/-- One piece of the notation that a rule produces. -/
inductive TemplatePart
  /-- Fixed notation. -/
  | fixed (notationText : String)
  /-- The operand with the given number, counted from zero. -/
  | operand (index : Nat)
  deriving DecidableEq, Repr

/-- Fills the operands into a template. -/
def fillTemplate (parts : List TemplatePart) (operands : List Text) : Text :=
  parts.flatMap fun
    | .fixed t => t.toList
    | .operand i => operands.getD i []

/-- One row of the rule table. -/
structure TranslationRule where
  /-- The stable identifier. -/
  id : String
  /-- What the rule translates. -/
  name : String
  /-- The phrase the rule looks for. -/
  pattern : Pattern
  /-- The words that disqualify a match when one of them is the last word before it. -/
  unlessAfter : List String
  /-- The notation the rule produces. -/
  template : List TemplatePart
  deriving DecidableEq, Repr

/-- The last word before a match: the letters and numbers at the end of the text, once the blanks
there are dropped. -/
def lastWord (text : Text) : Text :=
  ((Text.trimEnd text).reverse.takeWhile isAlphanumeric).reverse

namespace TranslationRule

/-- Whether a match is disqualified by the word that precedes it. -/
def disqualifies (r : TranslationRule) (m : Match) : Bool :=
  r.unlessAfter.any fun word => Text.eqIgnoringCase (lastWord m.before) word.toList

/-- The first match that is not disqualified. -/
def firstMatch (r : TranslationRule) (text : Text) : Option Match :=
  (r.pattern.findAll text).find? fun m => !r.disqualifies m

/-- The notation for the first match that is not disqualified. -/
def apply (r : TranslationRule) (text : Text) : Option Text :=
  (r.firstMatch text).map fun m => fillTemplate r.template m.operands

open Pattern

/-- At least one digit. -/
def digits : Pattern := atLeastOne .digit

/-- A decimal literal, recorded as an operand: digits, and possibly a point and more digits. -/
def decimal : Pattern := .operand (.seq digits (optionally (.seq (char '.') digits)))

/-- Two operands around a phrase that stands between blanks. -/
def between (choices : List String) : Pattern :=
  Pattern.all [decimal, blanks, phrases choices, blanks, decimal]

/-- One operand after a phrase that may begin with an article. -/
def applied (parts : List Pattern) : Pattern :=
  Pattern.all ([boundary, optionally (phrase "the ")] ++ parts ++ [decimal])

/-- The notation of an infix operation. -/
def binary (operator : String) : List TemplatePart :=
  [.operand 0, .fixed operator, .operand 1]

/-- The notation of a share in percent. -/
def share : List TemplatePart :=
  [.fixed "(", .operand 0, .fixed " / 100) * ", .operand 1]

/-- The notation of a function call, given with its opening bracket. -/
def call (opening : String) : List TemplatePart :=
  [.fixed opening, .operand 0, .fixed ")"]

/-- Every rule, in order of priority. The rule for the natural logarithm comes after a rule that
applies wherever it does. -/
def table : List TranslationRule := [
  ⟨"N1", "percent of",
    Pattern.all [decimal, gap, char '%', gap, phrases ["of", "from"], gap, decimal], [], share⟩,
  ⟨"N2", "percent", Pattern.all [decimal, gap, char '%', gap, decimal], [], share⟩,
  ⟨"N3", "addition", between ["plus", "added to", "and"], [], binary " + "⟩,
  ⟨"N4", "subtraction", between ["minus", "subtract", "subtracted from"], [], binary " - "⟩,
  ⟨"N5", "multiplication", between ["times", "multiplied by", "multiply"], [], binary " * "⟩,
  ⟨"N6", "division", between ["divided by", "divide", "over"], [], binary " / "⟩,
  ⟨"N7", "power", between ["to the power of", "raised to", "power"], [], binary " ^ "⟩,
  ⟨"N8", "square root", applied [optionally (phrase "square "), phrase "root of "],
    ["cube"], call "sqrt("⟩,
  ⟨"N9", "cube root", applied [phrase "cube root of "], [], call "cbrt("⟩,
  ⟨"N10", "sine", applied [phrases ["sine", "sin"], phrase " of "], [], call "sin("⟩,
  ⟨"N11", "cosine", applied [phrases ["cosine", "cos"], phrase " of "], [], call "cos("⟩,
  ⟨"N12", "tangent", applied [phrases ["tangent", "tan"], phrase " of "], [], call "tan("⟩,
  ⟨"N13", "logarithm",
    applied [phrases ["log", "logarithm"], blanks, optionally (phrase "of ")], [], call "log("⟩,
  ⟨"N14", "natural logarithm",
    applied [optionally (phrase "natural "), phrase "log ", optionally (phrase "of ")], [],
    call "ln("⟩,
  ⟨"N15", "absolute value (negative)",
    applied [phrases ["absolute value", "abs"], blanks, optionally (phrase "of "), char '-'], [],
    call "abs(-"⟩,
  ⟨"N16", "absolute value",
    applied [phrases ["absolute value", "abs"], blanks, optionally (phrase "of ")], [],
    call "abs("⟩]

end TranslationRule

/-- A phrase turned into notation, with the rule that did it. -/
structure Translation where
  /-- The identifier of the rule. -/
  ruleId : String
  /-- The name of the rule. -/
  ruleName : String
  /-- The notation. -/
  expression : Text
  deriving DecidableEq, Repr

/-- Translates a phrase with the first rule that applies. -/
def translate (phrase : Text) : Option Translation :=
  TranslationRule.table.findSome? fun r =>
    (r.apply (Text.trim phrase)).map fun expression => ⟨r.id, r.name, expression⟩

end ExprGate
