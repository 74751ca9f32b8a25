import ExprGate.Text.Basic

/-!
# Arguments

What the arguments of the program ask for. The words are read from left to right: a word names a
command, sets options, gives a value to the option before it, or is the input. Each command has its
own options, and those of an outer command stand before the name of the inner one; only the path of
the configuration may be given with any command, where the innermost counts. Reading stops at the
first option that asks for help and at the first word that cannot be understood; the command that
asks for help takes the names of other commands.
-/

namespace ExprGate

/-- The forms of output. -/
inductive Format
  | text
  | json
  deriving DecidableEq, Repr

/-- The form of output of the given name. -/
def Format.ofName? (name : Text) : Option Format :=
  if name = "text".toList then some .text
  else if name = "json".toList then some .json
  else none

/-- What the program is asked to do. Without an input, the standard input is read. -/
inductive Action
  /-- Translate a phrase. -/
  | parse (input : Option Text)
  /-- Admit an expression. -/
  | check (input : Option Text) (natural : Bool)
  /-- Admit and evaluate an expression. -/
  | calculate (input : Option Text) (natural : Bool)
  /-- Show the configuration. -/
  | showConfig
  deriving DecidableEq, Repr

/-- A complete set of arguments. -/
structure CommandLine where
  /-- The path of the configuration. -/
  config : Option Text
  /-- The form of output. -/
  format : Format
  /-- What to do. -/
  action : Action
  deriving DecidableEq, Repr

namespace Arguments

/-- Why the arguments do not lead to an action. -/
inductive Stop
  /-- Help is asked for. -/
  | help
  /-- The version is asked for. -/
  | version
  /-- A word cannot be understood, or one is missing. -/
  | misuse
  deriving DecidableEq, Repr

/-- The commands, the outer ones of which only lead to others. -/
inductive Command
  | top
  | parse
  | check
  | calculate
  | config
  | showConfig
  | help
  deriving DecidableEq, Repr

/-- The options. -/
inductive Switch
  | config
  | format
  | natural
  | help
  | version
  deriving DecidableEq, Repr

namespace Switch

/-- The long name of an option. -/
def long : Switch → String
  | config => "config"
  | format => "format"
  | natural => "natural"
  | help => "help"
  | version => "version"

/-- The short name of an option. -/
def short : Switch → Char
  | config => 'c'
  | format => 'f'
  | natural => 'n'
  | help => 'h'
  | version => 'V'

/-- Whether an option has a value. -/
def takesValue : Switch → Bool
  | config => true
  | format => true
  | _ => false

end Switch

namespace Command

/-- The options of a command. -/
def switches : Command → List Switch
  | top => [.config, .help, .version]
  | parse => [.config, .format, .help]
  | check => [.config, .format, .natural, .help]
  | calculate => [.config, .format, .natural, .help]
  | config => [.config, .help]
  | showConfig => [.config, .format, .help]
  | help => []

/-- The names of the commands that a command leads to. -/
def inner : Command → List (String × Command)
  | top =>
    [("parse", parse), ("check", check), ("calculate", calculate), ("config", config),
      ("help", help)]
  | config => [("show", showConfig), ("help", help)]
  | _ => []

/-- The command of the given name inside a command. -/
def inner? (command : Command) (name : Text) : Option Command :=
  (command.inner.find? fun entry => entry.1.toList == name).map Prod.snd

/-- Whether a command has an input. -/
def takesInput : Command → Bool
  | parse => true
  | check => true
  | calculate => true
  | _ => false

end Command

/-- The options that were set for one command. -/
structure Options where
  /-- The path of the configuration. -/
  config : Option Text
  /-- The form of output. -/
  format : Option Format
  /-- Whether phrases are allowed. -/
  natural : Bool
  deriving DecidableEq, Repr

namespace Options

/-- No options. -/
def none : Options := ⟨.none, .none, false⟩

/-- Sets an option that has a value, which can be done once. A path is not empty, and a form of
output has to exist. -/
def set (o : Options) (switch : Switch) (value : Text) : Except Stop Options :=
  match switch with
  | .config =>
    if o.config.isSome || value.isEmpty then .error .misuse
    else .ok { o with config := some value }
  | .format =>
    match o.format, Format.ofName? value with
    | .none, some format => .ok { o with format := some format }
    | _, _ => .error .misuse
  | _ => .error .misuse

/-- Sets an option that has no value, which can be done once. -/
def raise (o : Options) (switch : Switch) : Except Stop Options :=
  match switch with
  | .natural => if o.natural then .error .misuse else .ok { o with natural := true }
  | .help => .error .help
  | .version => .error .version
  | _ => .error .misuse

end Options

/-- What has been read so far. -/
structure State where
  /-- The command that the words belong to. -/
  command : Command
  /-- The path of the configuration that was given with outer commands. -/
  config : Option Text
  /-- The options of the command. -/
  options : Options
  /-- The option whose value comes next. -/
  pending : Option Switch
  /-- The input of the command. -/
  input : Option Text
  /-- Whether all further words are inputs. -/
  inputOnly : Bool
  /-- Whether help is asked for, and all further words name the command that it is about. -/
  asksHelp : Bool
  deriving DecidableEq, Repr

namespace State

/-- Nothing has been read. -/
def start : State := ⟨.top, none, .none, none, none, false, false⟩

/-- The path of the configuration that counts. -/
def configPath (s : State) : Option Text := s.options.config <|> s.config

/-- Reads the name of an option and the value behind an equals sign, if there is one. -/
def readLong (s : State) (word : Text) : Except Stop State :=
  let name := word.takeWhile (· != '=')
  match s.command.switches.find? fun switch => switch.long.toList == name with
  | none => .error .misuse
  | some switch =>
    match word.drop name.length with
    | _ :: value =>
      if switch.takesValue then
        (s.options.set switch value).map fun options => { s with options }
      else .error .misuse
    | [] =>
      if switch.takesValue then .ok { s with pending := some switch }
      else (s.options.raise switch).map fun options => { s with options }

/-- Reads the letters of options. The first that has a value takes the other letters for it, if
there are any. -/
def readShort (s : State) : Text → Except Stop State
  | [] => .ok s
  | letter :: rest =>
    match s.command.switches.find? fun switch => switch.short == letter with
    | none => .error .misuse
    | some switch =>
      if switch.takesValue then
        match rest with
        | [] => .ok { s with pending := some switch }
        | '=' :: value => (s.options.set switch value).map fun options => { s with options }
        | value => (s.options.set switch value).map fun options => { s with options }
      else
        match s.options.raise switch with
        | .ok options => readShort { s with options } rest
        | .error stop => .error stop

/-- Takes a word as the input, which there is one of. -/
def readInput (s : State) (word : Text) : Except Stop State :=
  if s.command.takesInput && s.input.isNone then .ok { s with input := some word }
  else .error .misuse

/-- Whether a word starts with a dash and is more than that. -/
def isDashed : Text → Bool
  | '-' :: _ :: _ => true
  | _ => false

/-- Reads a word that may be anything. -/
def readOpen (s : State) (word : Text) : Except Stop State :=
  match s.command.inner? word with
  | some .help => .ok { s with asksHelp := true }
  | some command => .ok { start with command, config := s.configPath }
  | none =>
    match word with
    | ['-', '-'] => .ok { s with inputOnly := true }
    | '-' :: '-' :: name => s.readLong name
    | '-' :: letter :: letters => s.readShort (letter :: letters)
    | word => s.readInput word

/-- Reads a word that names the command that help is asked for. -/
def readTopic (s : State) (word : Text) : Except Stop State :=
  match s.command.inner? word with
  | some command => .ok { s with command }
  | none => .error .misuse

/-- Reads a word. -/
def read (s : State) (word : Text) : Except Stop State :=
  if s.asksHelp then s.readTopic word
  else if s.inputOnly then s.readInput word
  else
    match s.pending with
    | some switch =>
      if isDashed word then .error .misuse
      else (s.options.set switch word).map fun options => { s with options, pending := none }
    | none => s.readOpen word

/-- What the words ask for, when they are complete. -/
def finish (s : State) : Except Stop CommandLine :=
  let line (action : Action) : Except Stop CommandLine :=
    .ok { config := s.configPath, format := s.options.format.getD .text, action }
  if s.asksHelp then .error .help
  else if s.pending.isSome then .error .misuse
  else
    match s.command with
    | .parse => line (.parse s.input)
    | .check => line (.check s.input s.options.natural)
    | .calculate => line (.calculate s.input s.options.natural)
    | .showConfig => line .showConfig
    | .top => .error .misuse
    | .config => .error .misuse
    | .help => .error .help

end State

/-- What the arguments ask for. -/
def parse (words : List Text) : Except Stop CommandLine := do
  (← words.foldlM State.read .start).finish

end Arguments

end ExprGate
