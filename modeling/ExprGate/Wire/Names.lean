import ExprGate.Route
import ExprGate.Wire.Fields

/-!
# Names of choices

The names under which the choices of the gate appear in JSON and in output.
-/

namespace ExprGate

namespace RejectionKind

/-- Every kind. -/
def all : List RejectionKind :=
  [tooLong, empty, blockedPattern, invalidCharacters, missingNumericOperand,
    unparsableNaturalLanguage, unrecognizedTokens, evaluationFailure]

/-- The name of a kind. -/
def name : RejectionKind → String
  | tooLong => "too_long"
  | empty => "empty"
  | blockedPattern => "blocked_pattern"
  | invalidCharacters => "invalid_characters"
  | missingNumericOperand => "missing_numeric_operand"
  | unparsableNaturalLanguage => "unparsable_natural_language"
  | unrecognizedTokens => "unrecognized_tokens"
  | evaluationFailure => "evaluation_failure"

/-- A kind in JSON. -/
def toJson (k : RejectionKind) : Json := .text k.name.toList

/-- The kind that a JSON value names. -/
def ofJson? : Json → Option RejectionKind := Wire.choice? all name

end RejectionKind

namespace Checkpoint

/-- Every checkpoint. -/
def all : List Checkpoint := [input, converted, dispatch]

/-- The name of a checkpoint. -/
def name : Checkpoint → String
  | input => "input"
  | converted => "converted"
  | dispatch => "dispatch"

/-- A checkpoint in JSON. -/
def toJson (c : Checkpoint) : Json := .text c.name.toList

/-- The checkpoint that a JSON value names. -/
def ofJson? : Json → Option Checkpoint := Wire.choice? all name

end Checkpoint

namespace SignatureCategory

/-- Every category. -/
def all : List SignatureCategory :=
  [instructionOverride, roleAssumption, roleLabel, commandExecution, destructiveOperation,
    credential, uriScheme, scriptPrefix, markupInjection, jailbreak, negatedCompliance,
    instructionReplacement, promptExfiltration]

/-- The name of a category. -/
def name : SignatureCategory → String
  | instructionOverride => "instruction_override"
  | roleAssumption => "role_assumption"
  | roleLabel => "role_label"
  | commandExecution => "command_execution"
  | destructiveOperation => "destructive_operation"
  | credential => "credential"
  | uriScheme => "uri_scheme"
  | scriptPrefix => "script_prefix"
  | markupInjection => "markup_injection"
  | jailbreak => "jailbreak"
  | negatedCompliance => "negated_compliance"
  | instructionReplacement => "instruction_replacement"
  | promptExfiltration => "prompt_exfiltration"

/-- A category in JSON. -/
def toJson (c : SignatureCategory) : Json := .text c.name.toList

/-- The category that a JSON value names. -/
def ofJson? : Json → Option SignatureCategory := Wire.choice? all name

end SignatureCategory

namespace Route

/-- Every route. -/
def all : List Route := [strictMath, naturalLanguage]

/-- The name of a route. -/
def name : Route → String
  | strictMath => "strict_math"
  | naturalLanguage => "natural_language"

/-- A route in JSON. -/
def toJson (r : Route) : Json := .text r.name.toList

/-- The route that a JSON value names. -/
def ofJson? : Json → Option Route := Wire.choice? all name

end Route

end ExprGate
