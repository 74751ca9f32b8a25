import ExprGate.CommandLine.Report
import ExprGate.Config.File

/-!
# Running the program

From arguments and an environment to an exit code and what is printed. The configuration is loaded
first, then the input is read, then the request is answered. The exit code is 0 for an answer, 1
when the evaluator fails, 2 when admission rejects and for arguments that cannot be understood, and
3 when there is no configuration or no input.
-/

namespace ExprGate

/-- What the program finds around it. -/
structure Environment where
  /-- The text of the file at a path, or the cause why there is none. -/
  file : Text → Except Text Text
  /-- The bytes of the standard input. -/
  stdin : List UInt8
  /-- What starts evaluator programs. -/
  host : Host

/-- How a run of the program ends. -/
structure RunResult where
  /-- The exit code. -/
  code : Nat
  /-- What is printed on the standard output. -/
  stdout : Text
  /-- The error that is printed on the error output. -/
  error : Option Text
  deriving DecidableEq, Repr

namespace RunResult

/-- An answer that is printed. -/
def printed (text : Text) : RunResult := { code := 0, stdout := text, error := none }

/-- A request that could not be answered. -/
def unanswered (format : Format) (e : RequestError) : RunResult :=
  { code := if e.isRejection then 2 else 1, stdout := format.failed e, error := none }

/-- A run that broke off. -/
def broken (message : Text) : RunResult :=
  { code := 3, stdout := [], error := some ("Error: ".toList ++ message) }

/-- The answer to a request, or the error. -/
def ofAnswer {α : Type} (format : Format) (report : Format → α → Text) :
    Except RequestError α → RunResult
  | .ok answer => printed (report format answer)
  | .error e => unanswered format e

end RunResult

/-- A configuration error together with its causes. -/
def ConfigError.chain : ConfigError → Text
  | io cause => (io cause).message ++ ": ".toList ++ cause
  | e => e.message

namespace CommandLine

/-- The configuration of a run, or the message of the error. -/
def loadConfig (env : Environment) : Option Text → Except Text Config
  | none => .ok .standard
  | some path =>
    match Config.ofFile path (env.file path) with
    | .ok config => .ok config
    | .error e =>
      .error ("Failed to load config from ".toList ++ Text.quotedPath path ++ ": ".toList ++
        e.chain)

/-- The text without the line breaks at its end. -/
def trimLineEnds (t : Text) : Text :=
  (t.reverse.dropWhile fun c => c == '\n' || c == '\r').reverse

/-- The input of a request, or the message of the error: the argument, or the standard input without
the line breaks at its end. -/
def readInput (env : Environment) : Option Text → Except Text Text
  | some input => .ok input
  | none =>
    match Utf8.decode? env.stdin with
    | some text => .ok (trimLineEnds text)
    | none => .error "Failed to read from stdin: stream did not contain valid UTF-8".toList

/-- The result of an action with a configuration that was loaded, or the message of the error. -/
def perform (env : Environment) (config : Config) (format : Format) :
    Action → Except Text RunResult
  | .showConfig =>
    .ok (.printed (match format with
      | .json => config.toJson.report
      | .text => config.toYaml))
  | .parse input => do
    let calculator ← calculatorOf config
    let input ← readInput env input
    return .ofAnswer format Format.parsed (calculator.parse { input })
  | .check input natural => do
    let calculator ← calculatorOf config
    let expression ← readInput env input
    return .ofAnswer format Format.admitted
      (calculator.admission { expression, allowNaturalLanguage := natural })
  | .calculate input natural => do
    let calculator ← calculatorOf config
    let expression ← readInput env input
    return .ofAnswer format Format.calculated
      (calculator.calculate { expression, allowNaturalLanguage := natural } ()).1
where
  /-- The calculator of a configuration, or the message of the error. -/
  calculatorOf (config : Config) : Except Text (Calculator Unit) :=
    match Calculator.ofConfig env.host config with
    | .ok calculator => .ok calculator
    | .error e => .error ("Invalid configuration: ".toList ++ e.chain)

/-- The result of a run. -/
def run (env : Environment) (line : CommandLine) : RunResult :=
  match loadConfig env line.config with
  | .error message => .broken message
  | .ok config =>
    match perform env config line.format line.action with
    | .error message => .broken message
    | .ok result => result

/-- The name and the version of the program. -/
def versionText : Text := "calcgate 0.1.0\n".toList

/-- The commands of the program. -/
def helpText : Text :=
  ("Usage: calcgate [--config FILE] COMMAND\n\n" ++
    "  parse [INPUT] [--format text|json]\n" ++
    "  check [EXPRESSION] [--natural] [--format text|json]\n" ++
    "  calculate [EXPRESSION] [--natural] [--format text|json]\n" ++
    "  config show [--format text|json]\n").toList

/-- The result of a run with the given arguments. -/
def runArguments (env : Environment) (words : List Text) : RunResult :=
  match Arguments.parse words with
  | .ok line => line.run env
  | .error .help => .printed helpText
  | .error .version => .printed versionText
  | .error .misuse => { code := 2, stdout := [], error := none }

end CommandLine

end ExprGate
