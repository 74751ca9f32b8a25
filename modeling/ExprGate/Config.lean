import ExprGate.Admission
import ExprGate.Duration
import ExprGate.PathName

/-!
# Configuration

The settings of the gate: the length bounds of admission, and the evaluator program with its
arguments, its time limit and the definitions that it is sent ahead of every expression. A
configuration can be written down that is of no use; `Config.validate` tells which can be used.
-/

namespace ExprGate

/-- The settings of the evaluator program. -/
structure EvaluatorSettings where
  /-- The program and its arguments. -/
  command : List Text
  /-- The time that one evaluation may take. -/
  timeout : Duration
  /-- The definitions sent ahead of every expression, when they are set here. -/
  prelude : Option Text
  deriving DecidableEq, Repr

namespace EvaluatorSettings

/-- The settings that hold when nothing else is configured. -/
def standard : EvaluatorSettings :=
  { command := ["bc".toList, "-l".toList], timeout := .ofSeconds 5, prelude := none }

/-- The program to run; a command that starts with a blank names none. -/
def program? (s : EvaluatorSettings) : Option Text :=
  match s.command with
  | [] => none
  | program :: _ => if Text.isBlank program then none else some program

/-- The arguments of the program. -/
def args (s : EvaluatorSettings) : List Text := s.command.drop 1

/-- Whether the program is the calculator `bc`, wherever it lies. -/
def isBc (s : EvaluatorSettings) : Bool :=
  match s.program? with
  | some program => PathName.fileName? program == some "bc".toList
  | none => false

end EvaluatorSettings

/-- The definitions of the recognized names for `bc`, which itself knows `sqrt` and functions of
one letter only and reads every other name as zero. -/
def bcPrelude : Text :=
  ("pi=4*a(1)\n" ++
    "e=e(1)\n" ++
    "define sin(x)\x7breturn(s(x))\x7d\n" ++
    "define cos(x)\x7breturn(c(x))\x7d\n" ++
    "define tan(x)\x7breturn(s(x)/c(x))\x7d\n" ++
    "define ln(x)\x7breturn(l(x))\x7d\n" ++
    "define log(x)\x7breturn(l(x)/l(10))\x7d\n" ++
    "define abs(x)\x7bif(x<0)return(-x);return(x)\x7d\n" ++
    "define cbrt(x)\x7bif(x==0)return(0);if(x<0)return(-e(l(-x)/3));return(e(l(x)/3))\x7d\n" ++
    "define floor(x)\x7bauto o,r;o=scale;scale=0;r=x/1;scale=o;if(r>x)r=r-1;return(r)\x7d\n" ++
    "define ceil(x)\x7bauto o,r;o=scale;scale=0;r=x/1;scale=o;if(r<x)r=r+1;return(r)\x7d\n").toList

/-- The definitions that are sent: those that are set, unless they are blank, and otherwise those
for `bc` when that is the program. -/
def EvaluatorSettings.effectivePrelude (s : EvaluatorSettings) : Option Text :=
  match s.prelude with
  | some prelude => if Text.isBlank prelude then none else some prelude
  | none => if s.isBc then some bcPrelude else none

/-- A configuration. -/
structure Config where
  /-- The bounds on the length of input. -/
  admission : Policy
  /-- The settings of the evaluator program. -/
  evaluator : EvaluatorSettings
  deriving DecidableEq, Repr

/-- The configuration that holds when nothing else is given. -/
def Config.standard : Config := { admission := .standard, evaluator := .standard }

/-- What makes a configuration useless. -/
inductive ConfigFault
  /-- No phrase is short enough. -/
  | phraseBound
  /-- No expression is short enough. -/
  | expressionBound
  /-- There is no program to run. -/
  | program
  /-- The program has no time to answer. -/
  | timeout
  deriving DecidableEq, Repr

/-- The fault in words. -/
def ConfigFault.text : ConfigFault → String
  | phraseBound => "admission.natural_language_max_len must be greater than zero"
  | expressionBound => "admission.expression_max_len must be greater than zero"
  | program => "evaluator.command must name a program"
  | timeout => "evaluator.timeout must be greater than zero"

/-- Why there is no configuration to use. -/
inductive ConfigError
  /-- Its file could not be read. -/
  | io (cause : Text)
  /-- The text is not a configuration in YAML. -/
  | yaml
  /-- The text is not a configuration in JSON. -/
  | json
  /-- The configuration is useless. -/
  | invalid (fault : ConfigFault)
  deriving DecidableEq, Repr

/-- The message of a configuration error. -/
def ConfigError.message : ConfigError → Text
  | io cause => "Failed to read config: ".toList ++ cause
  | yaml => "Invalid YAML config".toList
  | json => "Invalid JSON config".toList
  | invalid fault => "Invalid config: ".toList ++ fault.text.toList

namespace Config

/-- Refuses with the given fault unless the condition holds. -/
def demand (condition : Bool) (fault : ConfigFault) : Except ConfigError Unit :=
  if condition then .ok () else .error (.invalid fault)

/-- The first fault of a configuration, in the order of its fields. -/
def validate (c : Config) : Except ConfigError Unit := do
  demand (c.admission.naturalLanguageMaxLen != 0) .phraseBound
  demand (c.admission.expressionMaxLen != 0) .expressionBound
  demand c.evaluator.program?.isSome .program
  demand (c.evaluator.timeout.nanos != 0) .timeout

/-- The configuration, if it has no fault. -/
def checked (c : Config) : Except ConfigError Config := do
  c.validate
  return c

end Config

end ExprGate
