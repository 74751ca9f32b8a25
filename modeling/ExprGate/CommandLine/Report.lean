import ExprGate.Calculator
import ExprGate.CommandLine.Arguments
import ExprGate.Text.Quoted

/-!
# Reports

How answers and errors are shown: as indented JSON, or as lines of text.
-/

namespace ExprGate

/-- Lines of text, each with its line break. -/
def unlines (lines : List Text) : Text := lines.flatMap fun line => line ++ ['\n']

/-- A JSON value as a report. -/
def Json.report (j : Json) : Text := unlines [j.pretty]

/-- The name of a route in a report. -/
def Route.label : Route → String
  | strictMath => "strict math"
  | naturalLanguage => "natural language"

/-- The evidence of a signature in one line. -/
def SignatureMatch.describe (m : SignatureMatch) : Text :=
  let description :=
    match Signature.find? m.signatureId with
    | some signature => signature.description
    | none => "unknown signature"
  m.signatureId ++ " (".toList ++ description.toList ++ ") matched ".toList ++
    Text.quoted m.matched ++ " at ".toList ++ natText m.start ++ "..".toList ++ natText m.stop

namespace Format

/-- A translated phrase. -/
def parsed (format : Format) (response : ParseResponse) : Text :=
  match format with
  | json => response.toJson.report
  | text => unlines [response.expression]

/-- An admitted expression. -/
def admitted (format : Format) (admission : Admission) : Text :=
  match format with
  | json => admission.toJson.report
  | text =>
    unlines (["ADMITTED".toList, [], "Route: ".toList ++ admission.route.label.toList] ++
      (match admission.ruleId with
        | some rule => ["Rule: ".toList ++ rule.toList]
        | none => []) ++
      ["Expression: ".toList ++ admission.expression])

/-- The value of an expression. -/
def calculated (format : Format) (response : CalculateResponse) : Text :=
  match format with
  | json => response.toJson.report
  | text => unlines [response.result]

/-- An error. -/
def failed (format : Format) (e : RequestError) : Text :=
  match format with
  | json =>
    match e with
    | .rejected cause => cause.toJson.report
    | .evaluation _ => e.body.toJson.report
  | text =>
    unlines ([if e.isRejection then "REJECTED".toList else "FAILED".toList, [],
        "Kind: ".toList ++ e.kind.name.toList, "Message: ".toList ++ e.message] ++
      match e.evidence? with
      | some evidence => ["Signature: ".toList ++ evidence.describe]
      | none => [])

end Format

end ExprGate
