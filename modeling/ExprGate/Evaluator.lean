import ExprGate.Duration
import ExprGate.Value

/-!
# Evaluators

The arithmetic is done by someone else: an evaluator takes an expression that was admitted and
answers with a value or fails. What an evaluator remembers from call to call is a state of its own
choice, so that a run of requests can be followed call by call.
-/

namespace ExprGate

/-- Why an evaluator gave no value. -/
inductive EvaluatorError
  /-- The evaluator turned the expression down, in its own words. -/
  | failed (message : Text)
  /-- The program of the evaluator could not be started. -/
  | notStarted (program cause : Text)
  /-- The exchange with the program broke off. -/
  | io (cause : Text)
  /-- The program did not end in time. -/
  | timedOut (bound : Duration)
  deriving DecidableEq, Repr

/-- The message of an evaluator error. -/
def EvaluatorError.message : EvaluatorError → Text
  | failed message => message
  | notStarted program cause =>
    "Failed to start evaluator \x60".toList ++ program ++ "\x60: ".toList ++ cause
  | io cause => "Evaluator I/O failed: ".toList ++ cause
  | timedOut bound => "Evaluation timed out after ".toList ++ bound.brief

/-- An evaluator with states `σ`: an expression and a state give the answer and the next state. -/
abbrev Evaluator (σ : Type) := Text → σ → Except EvaluatorError Value × σ

end ExprGate
