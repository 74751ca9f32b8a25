import ExprGate.Config
import ExprGate.Yaml.Fields
import ExprGate.Yaml.Reader
import ExprGate.Yaml.Writer

/-!
# Configurations in YAML

A configuration is a document with two mappings, each of whose members has a default. It is
written in block style, one member on a line, with the command as a list.
-/

namespace ExprGate

open Yaml

/-! ## Reading -/

/-- A field that takes its default when it is missing. -/
private def fieldOr {α : Type} (default : α) (read? : Node → Option α) : Option Node → Option α
  | some node => read? node
  | none => some default

namespace Policy

/-- The policy that a node gives; a bound that is missing is the standard one. -/
def ofYaml? (node : Node) : Option Policy :=
  match node.fields? ["natural_language_max_len", "expression_max_len"] with
  | some [natural, expression] => do
    return { naturalLanguageMaxLen :=
               ← fieldOr standard.naturalLanguageMaxLen Node.nat64? natural,
             expressionMaxLen :=
               ← fieldOr standard.expressionMaxLen Node.nat64? expression }
  | _ => none

end Policy

namespace Duration

/-- The duration that a node writes. -/
def ofYaml? (node : Node) : Option Duration := node.text?.bind parse?

end Duration

namespace EvaluatorSettings

/-- The settings that a node gives. -/
def ofYaml? (node : Node) : Option EvaluatorSettings :=
  match node.fields? ["command", "timeout", "prelude"] with
  | some [command, timeout, prelude] => do
    return { command := ← fieldOr standard.command Node.texts? command,
             timeout := ← fieldOr standard.timeout Duration.ofYaml? timeout,
             prelude := ← fieldOr none Node.optionalText? prelude }
  | _ => none

end EvaluatorSettings

namespace Config

/-- The configuration that a node gives. -/
def ofYaml? (node : Node) : Option Config :=
  match node.fields? ["admission", "evaluator"] with
  | some [admission, evaluator] => do
    return { admission := ← fieldOr .standard Policy.ofYaml? admission,
             evaluator := ← fieldOr .standard EvaluatorSettings.ofYaml? evaluator }
  | _ => none

/-- The configuration that a YAML text writes, useful or not. -/
def parseYaml? (source : Text) : Option Config := (Yaml.parse? source).bind ofYaml?

/-- The configuration that a YAML text writes, if it is of use. -/
def fromYaml (source : Text) : Except ConfigError Config :=
  match parseYaml? source with
  | some c => c.checked
  | none => .error .yaml

/-! ## Writing -/

/-- A line with a name and the value behind it. -/
def yamlMember (depth : Nat) (name : String) (value : Text) : Text :=
  margin depth ++ name.toList ++ ": ".toList ++ scalarLine (depth + 2) value

/-- A line with a name whose value follows in the next lines. -/
def yamlHeading (depth : Nat) (name : String) : Text :=
  margin depth ++ name.toList ++ ":\n".toList

/-- A line with a list item. -/
def yamlItem (depth : Nat) (item : Text) : Text :=
  margin depth ++ "- ".toList ++ scalarLine (depth + 2) item

/-- The command as a list, in brackets when it is empty. -/
def yamlCommand (depth : Nat) : List Text → Text
  | [] => margin depth ++ "command: []\n".toList
  | items => yamlHeading depth "command" ++ items.flatMap (yamlItem depth)

/-- A line with a name and a number. -/
def yamlNumber (depth : Nat) (name : String) (n : Nat) : Text :=
  margin depth ++ name.toList ++ ": ".toList ++ natText n ++ ['\n']

/-- The configuration as a YAML document. -/
def toYaml (c : Config) : Text :=
  yamlHeading 0 "admission" ++
  yamlNumber 2 "natural_language_max_len" c.admission.naturalLanguageMaxLen ++
  yamlNumber 2 "expression_max_len" c.admission.expressionMaxLen ++
  yamlHeading 0 "evaluator" ++
  yamlCommand 2 c.evaluator.command ++
  yamlMember 2 "timeout" c.evaluator.timeout.text ++
  match c.evaluator.prelude with
  | some prelude => yamlMember 2 "prelude" prelude
  | none => []

end Config

end ExprGate
