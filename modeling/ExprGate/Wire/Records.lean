import ExprGate.Admission
import ExprGate.Wire.Names

/-!
# Wire records

The records that travel between the gate and its callers, with their JSON form. Writing puts the
fields in the order of their declaration; reading accepts every spelling that `Wire.fields?`
allows.
-/

namespace ExprGate

/-- A request to translate a phrase. -/
structure ParseRequest where
  /-- The phrase. -/
  input : Text
  deriving DecidableEq, Repr

/-- The notation that a phrase was translated into. -/
structure ParseResponse where
  /-- The notation. -/
  expression : Text
  deriving DecidableEq, Repr

/-- A request to evaluate an expression. -/
structure CalculateRequest where
  /-- The expression. -/
  expression : Text
  /-- Whether an expression that reads like a phrase is translated first. -/
  allowNaturalLanguage : Bool
  deriving DecidableEq, Repr

/-- The result of an evaluation, as a text. -/
structure CalculateResponse where
  /-- The result. -/
  result : Text
  deriving DecidableEq, Repr

/-- What callers are told about a failure. -/
structure ErrorBody where
  /-- The message for people. -/
  message : Text
  /-- The kind that callers branch on. -/
  kind : RejectionKind
  deriving DecidableEq, Repr

open Wire

namespace ParseRequest

/-- The request in JSON. -/
def toJson (r : ParseRequest) : Json := .record [("input", .text r.input)]

/-- The request that a JSON value gives. -/
def ofJson? (j : Json) : Option ParseRequest :=
  match fields? ["input"] j with
  | some [input] => do return { input := ← required text? input }
  | _ => none

end ParseRequest

namespace ParseResponse

/-- The response in JSON. -/
def toJson (r : ParseResponse) : Json := .record [("expression", .text r.expression)]

/-- The response that a JSON value gives. -/
def ofJson? (j : Json) : Option ParseResponse :=
  match fields? ["expression"] j with
  | some [expression] => do return { expression := ← required text? expression }
  | _ => none

end ParseResponse

namespace CalculateRequest

/-- The request in JSON. -/
def toJson (r : CalculateRequest) : Json :=
  .record [("expression", .text r.expression),
    ("allowNaturalLanguage", .bool r.allowNaturalLanguage)]

/-- The request that a JSON value gives. -/
def ofJson? (j : Json) : Option CalculateRequest :=
  match fields? ["expression", "allowNaturalLanguage"] j with
  | some [expression, allow] => do
    return { expression := ← required text? expression,
             allowNaturalLanguage := ← withDefault false bool? allow }
  | _ => none

end CalculateRequest

namespace CalculateResponse

/-- The response in JSON. -/
def toJson (r : CalculateResponse) : Json := .record [("result", .text r.result)]

/-- The response that a JSON value gives. -/
def ofJson? (j : Json) : Option CalculateResponse :=
  match fields? ["result"] j with
  | some [result] => do return { result := ← required text? result }
  | _ => none

end CalculateResponse

namespace ErrorBody

/-- The body in JSON. -/
def toJson (b : ErrorBody) : Json :=
  .record [("message", .text b.message), ("kind", b.kind.toJson)]

/-- The body that a JSON value gives. -/
def ofJson? (j : Json) : Option ErrorBody :=
  match fields? ["message", "kind"] j with
  | some [message, kind] => do
    return { message := ← required text? message,
             kind := ← required RejectionKind.ofJson? kind }
  | _ => none

end ErrorBody

namespace SignatureMatch

/-- The report in JSON. -/
def toJson (m : SignatureMatch) : Json :=
  .record [("signature_id", .text m.signatureId), ("category", m.category.toJson),
    ("checkpoint", m.checkpoint.toJson), ("start", .nat m.start), ("end", .nat m.stop),
    ("matched", .text m.matched)]

/-- The report that a JSON value gives. -/
def ofJson? (j : Json) : Option SignatureMatch :=
  match fields? ["signature_id", "category", "checkpoint", "start", "end", "matched"] j with
  | some [id, category, checkpoint, start, stop, matched] => do
    return { signatureId := ← required text? id,
             category := ← required SignatureCategory.ofJson? category,
             checkpoint := ← required Checkpoint.ofJson? checkpoint,
             start := ← required nat64? start,
             stop := ← required nat64? stop,
             matched := ← required text? matched }
  | _ => none

end SignatureMatch

namespace Policy

/-- The policy in JSON. -/
def toJson (p : Policy) : Json :=
  .record [("natural_language_max_len", .nat p.naturalLanguageMaxLen),
    ("expression_max_len", .nat p.expressionMaxLen)]

/-- The policy that a JSON value gives; a bound that is missing is the standard one. -/
def ofJson? (j : Json) : Option Policy :=
  match fields? ["natural_language_max_len", "expression_max_len"] j with
  | some [natural, expression] => do
    return { naturalLanguageMaxLen :=
               ← withDefault Policy.standard.naturalLanguageMaxLen nat64? natural,
             expressionMaxLen :=
               ← withDefault Policy.standard.expressionMaxLen nat64? expression }
  | _ => none

end Policy

/-- An admission in JSON; the rule is left out when there is none. -/
def Admission.toJson (a : Admission) : Json :=
  .record ([("expression", .text a.expression), ("route", a.route.toJson)] ++
    match a.ruleId with
    | some id => [("rule_id", .text id.toList)]
    | none => [])

/-- A rejection in JSON; the signature is left out when none fired. -/
def Rejection.toJson (r : Rejection) : Json :=
  .record ([("kind", r.kind.toJson), ("message", .text r.message)] ++
    match r.evidence? with
    | some evidence => [("signature", evidence.toJson)]
    | none => [])

end ExprGate
