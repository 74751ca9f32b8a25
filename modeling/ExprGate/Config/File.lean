import ExprGate.Config.Json
import ExprGate.Config.Yaml

/-!
# Configuration files

A file is in JSON when its name says so and in YAML otherwise.
-/

namespace ExprGate.Config

/-- The configuration in the file at a path. The file has a text, or a cause why there is none. -/
def ofFile (path : Text) (contents : Except Text Text) : Except ConfigError Config :=
  match contents with
  | .error cause => .error (.io cause)
  | .ok source =>
    if PathName.hasExtension "json".toList path then fromJson source else fromYaml source

end ExprGate.Config
