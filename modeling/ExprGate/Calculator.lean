import ExprGate.CommandEvaluator
import ExprGate.Wire.Records

/-!
# The calculator

Admission in front of an evaluator. A calculator answers requests: whether it is well, its policy,
the translation of a phrase, the admission of an expression, and the value of an expression. Only
the last one, and only once the expression was admitted, reaches the evaluator.
-/

namespace ExprGate

/-- Why a request was not answered. -/
inductive RequestError
  /-- Admission turned the input away. -/
  | rejected (cause : Rejection)
  /-- The evaluator gave no value. -/
  | evaluation (message : Text)
  deriving DecidableEq, Repr

namespace RequestError

/-- The kind of an error. -/
def kind : RequestError → RejectionKind
  | rejected cause => cause.kind
  | evaluation _ => .evaluationFailure

/-- The message of an error. -/
def message : RequestError → Text
  | rejected cause => cause.message
  | evaluation message => message

/-- What callers are told about an error. -/
def body (e : RequestError) : ErrorBody := { message := e.message, kind := e.kind }

/-- Whether admission turned the input away. -/
def isRejection : RequestError → Bool
  | rejected _ => true
  | evaluation _ => false

/-- The evidence of the signature that fired, when one did. -/
def evidence? : RequestError → Option SignatureMatch
  | rejected cause => cause.evidence?
  | evaluation _ => none

/-- The error for an evaluator that gave no value; one that says nothing about it is given words. -/
def ofEvaluator (e : EvaluatorError) : RequestError :=
  if Text.isBlank e.message then evaluation "Failed to evaluate expression".toList
  else evaluation e.message

end RequestError

/-- What a calculator can be asked. -/
inductive Request
  /-- Whether it is well. -/
  | health
  /-- Its policy. -/
  | policy
  /-- The translation of a phrase. -/
  | parse (request : ParseRequest)
  /-- The admission of an expression. -/
  | admission (request : CalculateRequest)
  /-- The value of an expression. -/
  | calculation (request : CalculateRequest)
  deriving DecidableEq, Repr

/-- The answer to a request. -/
inductive Answer
  /-- The calculator is well. -/
  | well
  /-- The policy of the calculator. -/
  | policy (policy : Policy)
  /-- The translation of the phrase. -/
  | parsed (response : ParseResponse)
  /-- The expression as it was admitted. -/
  | admitted (admission : Admission)
  /-- The value of the expression. -/
  | calculated (response : CalculateResponse)
  deriving DecidableEq, Repr

/-- Admission in front of an evaluator with states `σ`. -/
structure Calculator (σ : Type) where
  /-- The evaluator. -/
  evaluator : Evaluator σ
  /-- The bounds on the length of input. -/
  policy : Policy

namespace Calculator

variable {σ : Type}

/-- The translation of a phrase. -/
def parse (c : Calculator σ) (request : ParseRequest) : Except RequestError ParseResponse :=
  match parsePhrase c.policy request.input with
  | .ok translation => .ok { expression := translation.expression }
  | .error cause => .error (.rejected cause)

/-- The admission of an expression. -/
def admission (c : Calculator σ) (request : CalculateRequest) : Except RequestError Admission :=
  match admitExpression c.policy request.allowNaturalLanguage request.expression with
  | .ok admission => .ok admission
  | .error cause => .error (.rejected cause)

/-- The response that the answer of the evaluator amounts to. -/
def respond : Except EvaluatorError Value → Except RequestError CalculateResponse
  | .ok value => .ok { result := value.render }
  | .error e => .error (.ofEvaluator e)

/-- The value of an expression: the evaluator is asked for that of the admitted expression. -/
def calculate (c : Calculator σ) (request : CalculateRequest) (s : σ) :
    Except RequestError CalculateResponse × σ :=
  match c.admission request with
  | .error e => (.error e, s)
  | .ok admission =>
    let (value, s) := c.evaluator admission.expression s
    (respond value, s)

/-- The answer to a request, and the state that the evaluator is left in. -/
def answer (c : Calculator σ) (request : Request) (s : σ) : Except RequestError Answer × σ :=
  match request with
  | .health => (.ok .well, s)
  | .policy => (.ok (.policy c.policy), s)
  | .parse request => ((c.parse request).map .parsed, s)
  | .admission request => ((c.admission request).map .admitted, s)
  | .calculation request =>
    let (response, s) := c.calculate request s
    (response.map .calculated, s)

/-- The calculator that a configuration describes, on the given host. -/
def ofConfig (host : Host) (config : Config) : Except ConfigError (Calculator Unit) := do
  config.validate
  let evaluator ← CommandEvaluator.ofSettings config.evaluator
  return { evaluator := evaluator.toEvaluator host, policy := config.admission }

end Calculator

end ExprGate
