import ExprGate.Signature

/-!
# Rejections

Why an input was turned away. A rejection records its cause; the kind that callers branch on, the
message shown to people and the evidence of a signature are all read off the cause.
-/

namespace ExprGate

/-- What callers branch on when a request fails. -/
inductive RejectionKind
  | tooLong
  | empty
  | blockedPattern
  | invalidCharacters
  | missingNumericOperand
  | unparsableNaturalLanguage
  | unrecognizedTokens
  | evaluationFailure
  deriving DecidableEq, Repr

/-- The two ways into the gate, which word some of their rejections differently. -/
inductive Entry
  /-- A phrase, to be translated. -/
  | phrase
  /-- An expression, to be cleared for evaluation. -/
  | expression
  deriving DecidableEq, Repr

/-- Why admission turned an input away. -/
inductive Rejection
  /-- The raw input has more characters than the bound. -/
  | tooLong (bound : Nat)
  /-- Nothing is left to inspect. -/
  | empty (entry : Entry)
  /-- A signature occurs in the inspected text. -/
  | blocked (evidence : SignatureMatch)
  /-- A character lies outside the permitted class. -/
  | invalidCharacters (entry : Entry)
  /-- There is neither a digit nor a named constant. -/
  | missingNumber (entry : Entry)
  /-- No translation rule applies. -/
  | unparsable
  /-- Something is left after the recognized names are erased. -/
  | unrecognizedTokens
  deriving DecidableEq, Repr

namespace Rejection

/-- The kind of a rejection. -/
def kind : Rejection → RejectionKind
  | tooLong _ => .tooLong
  | empty _ => .empty
  | blocked _ => .blockedPattern
  | invalidCharacters _ => .invalidCharacters
  | missingNumber _ => .missingNumericOperand
  | unparsable => .unparsableNaturalLanguage
  | unrecognizedTokens => .unrecognizedTokens

/-- The message for a text blocked at a checkpoint. -/
def blockedMessage : Checkpoint → String
  | .input => "Invalid input detected. Please use only mathematical expressions."
  | .converted => "Invalid expression generated. Please try a different input."
  | .dispatch => "Invalid expression: contains blocked patterns"

/-- The message shown to people. -/
def message : Rejection → Text
  | tooLong bound =>
    "Input too long. Maximum length is ".toList ++ natText bound ++ " characters.".toList
  | empty .phrase => "Input cannot be empty.".toList
  | empty .expression => "Expression cannot be empty.".toList
  | blocked evidence => (blockedMessage evidence.checkpoint).toList
  | invalidCharacters .phrase => "Input contains invalid characters.".toList
  | invalidCharacters .expression => "Invalid expression: contains invalid characters".toList
  | missingNumber .phrase => "Input must contain at least one number.".toList
  | missingNumber .expression =>
    "Invalid expression: must contain at least one number or valid constant".toList
  | unparsable =>
    ("Could not parse natural language. Please use standard mathematical notation " ++
      "or try phrases like '10% of 5' or 'square root of 144'.").toList
  | unrecognizedTokens => "Invalid expression: contains unrecognized functions or text".toList

/-- The evidence of the signature that fired, when one did. -/
def evidence? : Rejection → Option SignatureMatch
  | blocked evidence => some evidence
  | _ => none

end Rejection

/-- Rejects with the given cause unless the condition holds. -/
def ensure (condition : Bool) (cause : Rejection) : Except Rejection Unit :=
  if condition then .ok () else .error cause

/-- Turns an occurrence of a signature active at the checkpoint into a rejection. -/
def screen (text : Text) (checkpoint : Checkpoint) : Except Rejection Unit :=
  match findBlocked text checkpoint with
  | some evidence => .error (.blocked evidence)
  | none => .ok ()

end ExprGate
