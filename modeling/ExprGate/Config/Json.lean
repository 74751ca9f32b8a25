import ExprGate.Config
import ExprGate.Wire.Records

/-!
# Configurations in JSON

A configuration is a record of records. Every field has a default, so the empty record is the
standard configuration.
-/

namespace ExprGate

open Wire

namespace Duration

/-- The duration that a JSON value writes, as a text. -/
def ofJson? (j : Json) : Option Duration := (text? j).bind parse?

end Duration

namespace EvaluatorSettings

/-- The settings in JSON; a prelude that is not set is left out. -/
def toJson (s : EvaluatorSettings) : Json :=
  .record ([("command", .array (s.command.map .text)), ("timeout", .text s.timeout.text)] ++
    match s.prelude with
    | some prelude => [("prelude", .text prelude)]
    | none => [])

/-- The settings that a JSON value gives. -/
def ofJson? (j : Json) : Option EvaluatorSettings :=
  match fields? ["command", "timeout", "prelude"] j with
  | some [command, timeout, prelude] => do
    return { command := ← withDefault standard.command (list? text?) command,
             timeout := ← withDefault standard.timeout Duration.ofJson? timeout,
             prelude := ← optional text? prelude }
  | _ => none

end EvaluatorSettings

namespace Config

/-- The configuration in JSON. -/
def toJson (c : Config) : Json :=
  .record [("admission", c.admission.toJson), ("evaluator", c.evaluator.toJson)]

/-- The configuration that a JSON value gives. -/
def ofJson? (j : Json) : Option Config :=
  match fields? ["admission", "evaluator"] j with
  | some [admission, evaluator] => do
    return { admission := ← withDefault .standard Policy.ofJson? admission,
             evaluator := ← withDefault .standard EvaluatorSettings.ofJson? evaluator }
  | _ => none

/-- The configuration that a JSON text writes, useful or not. -/
def parseJson? (source : Text) : Option Config := (Json.parse? source).bind ofJson?

/-- The configuration that a JSON text writes, if it is of use. -/
def fromJson (source : Text) : Except ConfigError Config :=
  match parseJson? source with
  | some c => c.checked
  | none => .error .json

end Config

end ExprGate
