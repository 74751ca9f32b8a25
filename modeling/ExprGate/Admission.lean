import ExprGate.Operand
import ExprGate.Route
import ExprGate.Sanitized
import ExprGate.Translation

/-!
# Admission

The two entry points of the gate. `parsePhrase` turns a phrase into notation, `admitExpression`
clears an expression for the evaluator, translating it first when phrases are allowed and it reads
like one. Both run their checks in a fixed order, and the length bound always comes first.
-/

namespace ExprGate

/-- The bounds on the length of raw input, in characters. -/
structure Policy where
  /-- The bound for phrases. -/
  naturalLanguageMaxLen : Nat
  /-- The bound for expressions. -/
  expressionMaxLen : Nat
  deriving DecidableEq, Repr

/-- The bounds that hold when nothing else is configured. -/
def Policy.standard : Policy := { naturalLanguageMaxLen := 200, expressionMaxLen := 500 }

/-- An expression cleared for the evaluator. -/
structure Admission where
  /-- The expression. -/
  expression : Text
  /-- How the input was treated. -/
  route : Route
  /-- The translation rule that fired, for a phrase. -/
  ruleId : Option String
  deriving DecidableEq, Repr

/-- The translation of a phrase, or the rejection of one that no rule applies to. -/
def translateOrReject (phrase : Text) : Except Rejection Translation :=
  match translate phrase with
  | some translation => .ok translation
  | none => .error .unparsable

/-- Translates a phrase. The checks, in order: the length bound, sanitization and the empty check,
the signatures on the sanitized input, the characters of a phrase, a numeric operand, the rules,
and the signatures on the notation they produce. -/
def parsePhrase (policy : Policy) (input : Text) : Except Rejection Translation := do
  let text ← sanitizeBounded input policy.naturalLanguageMaxLen
  screen text .input
  ensure (hasPhraseCharacters text) (.invalidCharacters .phrase)
  ensure (hasNumericOperand text) (.missingNumber .phrase)
  let translation ← translateOrReject text
  screen translation.expression .converted
  return translation

/-- The last checks before dispatch: the dispatch signatures, a numeric operand, the notation. -/
def clear (expression : Text) : Except Rejection Unit := do
  screen expression .dispatch
  ensure (hasNumericOperand expression) (.missingNumber .expression)
  validateExpression expression

/-- What a trimmed input is taken as: itself, or its translation when phrases are allowed and it
reads like one. -/
def interpretInput (policy : Policy) (allowPhrases : Bool) (text : Text) :
    Except Rejection Admission :=
  if allowPhrases && looksLikeNaturalLanguage text then do
    let translation ← parsePhrase policy text
    return ⟨translation.expression, .naturalLanguage, some translation.ruleId⟩
  else .ok ⟨text, .strictMath, none⟩

/-- Clears an expression for the evaluator. After the length bound and the empty check on the
trimmed input, a phrase is translated if phrases are allowed, and the outcome passes the last
checks. -/
def admitExpression (policy : Policy) (allowPhrases : Bool) (input : Text) :
    Except Rejection Admission := do
  checkLength input policy.expressionMaxLen
  ensure (!(Text.trim input).isEmpty) (.empty .expression)
  let admission ← interpretInput policy allowPhrases (Text.trim input)
  clear admission.expression
  return admission

end ExprGate
