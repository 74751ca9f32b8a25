import ExprGate.Config
import ExprGate.Process
import ExprGate.Text.Lowercase

/-!
# Evaluator programs

An evaluator that runs a program for every expression. The program reads its definitions and the
expression from its standard input, each on lines of its own, and its output is interpreted. What
actually starts programs is a host, a function from invocations to outcomes.
-/

namespace ExprGate

/-- A program together with what it is given. -/
structure Invocation where
  /-- The program. -/
  program : Text
  /-- Its arguments. -/
  args : List Text
  /-- Its standard input. -/
  input : Text
  /-- The time it may take. -/
  timeout : Duration
  deriving DecidableEq, Repr

/-- What becomes of an invocation. -/
inductive Outcome
  /-- The program could not be started. -/
  | notStarted (cause : Text)
  /-- The exchange with the program broke off. -/
  | brokeOff (cause : Text)
  /-- The program did not end in time. -/
  | overran
  /-- The program ended. -/
  | ended (output : ProcessOutput)
  deriving DecidableEq, Repr

/-- What starts programs. -/
abbrev Host := Invocation → Outcome

/-- An evaluator that runs a program. -/
structure CommandEvaluator where
  /-- The program. -/
  program : Text
  /-- Its arguments. -/
  args : List Text
  /-- The time that one evaluation may take. -/
  timeout : Duration
  /-- The definitions sent ahead of every expression. -/
  prelude : Option Text
  /-- Whether expressions are sent in lower case. -/
  lowercaseInput : Bool
  deriving DecidableEq, Repr

namespace CommandEvaluator

/-- The evaluator that sends expressions as they are and nothing ahead of them. -/
def plain (program : Text) (args : List Text) (timeout : Duration) : CommandEvaluator :=
  { program, args, timeout, prelude := none, lowercaseInput := false }

/-- The evaluator with other definitions; blank ones stand for none. -/
def withPrelude (e : CommandEvaluator) (prelude : Text) : CommandEvaluator :=
  { e with prelude := if Text.isBlank prelude then none else some prelude }

/-- The evaluator that the settings describe. The calculator `bc` is sent lower-case letters, as
it reads capitals as digits. -/
def ofSettings (s : EvaluatorSettings) : Except ConfigError CommandEvaluator :=
  match s.program? with
  | none => .error (.invalid .program)
  | some program =>
    let e := { plain program s.args s.timeout with lowercaseInput := s.isBc }
    match s.effectivePrelude with
    | some prelude => .ok (e.withPrelude prelude)
    | none => .ok e

/-- The form in which an expression is sent. -/
def sentExpression (e : CommandEvaluator) (expression : Text) : Text :=
  if e.lowercaseInput then Text.lower expression else expression

/-- The definitions as they are sent, with one line break behind them. -/
def sentPrelude (e : CommandEvaluator) : Text :=
  match e.prelude with
  | some prelude => Text.trimEnd prelude ++ ['\n']
  | none => []

/-- What the program is run with for an expression. -/
def invocation (e : CommandEvaluator) (expression : Text) : Invocation :=
  { program := e.program, args := e.args, timeout := e.timeout,
    input := e.sentPrelude ++ e.sentExpression expression ++ ['\n'] }

/-- The answer that an outcome amounts to. -/
def answer (e : CommandEvaluator) : Outcome → Except EvaluatorError Value
  | .notStarted cause => .error (.notStarted e.program cause)
  | .brokeOff cause => .error (.io cause)
  | .overran => .error (.timedOut e.timeout)
  | .ended output => output.interpret

/-- The value of an expression, on the given host. -/
def evaluate (e : CommandEvaluator) (host : Host) (expression : Text) :
    Except EvaluatorError Value :=
  e.answer (host (e.invocation expression))

/-- The evaluator that runs the program on a host and remembers nothing. -/
def toEvaluator (e : CommandEvaluator) (host : Host) : Evaluator Unit := fun expression _ =>
  (e.evaluate host expression, ())

end CommandEvaluator

end ExprGate
