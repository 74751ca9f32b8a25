import ExprGate.Calculator

/-!
# Sessions

A run of requests to a calculator whose evaluator follows a script. The script lists the replies,
one for each call, and writes down the expressions that the evaluator was given.
-/

namespace ExprGate

/-- A scripted evaluator between two calls. -/
structure Script where
  /-- The replies that are left. -/
  replies : List (Except EvaluatorError Value)
  /-- The expressions that were given so far. -/
  seen : List Text

namespace Script

/-- The next reply, and the script without it; a script that has run out fails. -/
def reply : Evaluator Script := fun expression script =>
  let seen := script.seen ++ [expression]
  match script.replies with
  | [] => (.error (.failed "no reply".toList), { replies := [], seen })
  | reply :: replies => (reply, { replies, seen })

end Script

namespace Session

/-- The calculator of a session. -/
def calculator (policy : Policy) : Calculator Script := { evaluator := Script.reply, policy }

/-- One step of a session: the answer, and the expressions that the evaluator was given. -/
structure Step where
  /-- The answer to the request of the step. -/
  answer : Except RequestError Answer
  /-- What the evaluator was given during the step. -/
  seen : List Text

/-- The steps of a session, request by request, with the replies that the evaluator has left. -/
def run (policy : Policy) : List (Except EvaluatorError Value) → List Request → List Step
  | _, [] => []
  | replies, request :: requests =>
    let (answer, script) := (calculator policy).answer request { replies, seen := [] }
    { answer, seen := script.seen } :: run policy script.replies requests

end Session

end ExprGate
