import ExprGate.Notation

/-!
# Routes

An expression either is taken as notation or reads like a phrase that has to be translated first.
The classification is advisory: callers decide whether phrases are allowed at all.
-/

namespace ExprGate

/-- How an expression is treated. -/
inductive Route
  /-- Taken as notation. -/
  | strictMath
  /-- Translated first. -/
  | naturalLanguage
  deriving DecidableEq, Repr

/-- A percent sign followed by the word that takes the share of something. -/
def percentageWords : Pattern :=
  .all [.char '%', .gap, .phrases ["of", "from"]]

/-- The words that name an operation. -/
def operatorWords : List String :=
  ["of", "from", "plus", "minus", "times", "multiplied", "divided", "divide", "over", "added",
    "subtract", "power", "root", "square", "cube", "sine", "cosine", "tangent", "log",
    "logarithm", "absolute", "value", "abs"]

/-- An operator word standing as a whole word. -/
def operatorWord : Pattern := .all [.boundary, .phrases operatorWords, .boundary]

/-- Two letters in a row. -/
def letterPair : Pattern := .seq (.one .latin) (.one .latin)

/-- Whether an expression reads like a phrase: it uses operator words, or it has a run of letters
next to characters that notation does not have. -/
def looksLikeNaturalLanguage (text : Text) : Bool :=
  percentageWords.occursIn text || operatorWord.occursIn text ||
    (letterPair.occursIn text && !hasValidCharacters text)

/-- The route an expression takes when phrases are allowed. -/
def classify (text : Text) : Route :=
  if looksLikeNaturalLanguage text then .naturalLanguage else .strictMath

end ExprGate
