import ExprGate.Text.Lowercase
import ExprGate.Rejection

/-!
# Canonical notation

What the evaluator may be given: numbers, operators, grouping, blanks, and the names of the
functions and constants it knows. The check has two passes. The first admits a class of characters
that includes every letter; the second erases the recognized names, one after another, and rejects
the text when anything but notation characters is left. A name that the erasure itself assembles is
left over, unless a later step erases it.
-/

namespace ExprGate

/-- The functions and constants the evaluator knows, in the order in which they are erased. -/
def recognizedNames : List String :=
  ["sqrt", "cbrt", "sin", "cos", "tan", "log", "ln", "abs", "ceil", "floor", "pi", "e"]

/-- The characters of notation that are not part of a name. -/
def isNotationCharacter (c : Char) : Bool :=
  c.isDigit || "+-*/().^,".toList.contains c || isBlank c

/-- Whether a text is made of letters and notation characters, and not empty. -/
def hasValidCharacters (text : Text) : Bool :=
  !text.isEmpty && text.all fun c => isLatin c || isNotationCharacter c

/-- Whether a text is made of the letters, digits, blanks, operators and light punctuation that a
phrase may use, and not empty. -/
def hasPhraseCharacters (text : Text) : Bool :=
  !text.isEmpty && text.all fun c =>
    isLatin c || c.isDigit || isBlank c || ".,!?%()+-*/^".toList.contains c

/-- The lower-cased text with each recognized name erased everywhere, in order, in one pass. -/
def eraseNames (text : Text) : Text :=
  recognizedNames.foldl (fun t name => Text.erase name.toList t) (Text.lower text)

/-- What neither belongs to a recognized name nor is notation. -/
def leftoverText (text : Text) : Text :=
  (eraseNames text).filter fun c => !isNotationCharacter c

/-- Runs both passes and says which one failed. -/
def validateExpression (text : Text) : Except Rejection Unit := do
  ensure (hasValidCharacters text) (.invalidCharacters .expression)
  ensure (leftoverText text).isEmpty .unrecognizedTokens

/-- Whether a text passes both passes. -/
def isClean (text : Text) : Bool :=
  hasValidCharacters text && (leftoverText text).isEmpty

end ExprGate
