import ExprGate.Evaluator
import ExprGate.Text.Utf8

/-!
# Program output

What the output of a program says about the expression it was given. A program that ends with
success and stays silent on its error output has answered; everything else is a failure. A long
answer may be broken into lines by backslashes, which are joined again. The answer counts as a
number only when that number is written the same way, so no digit is ever lost.
-/

namespace ExprGate

/-- How a program ended. -/
inductive Ending
  /-- The program ended by itself, with an exit code. -/
  | exited (code : Nat)
  /-- The program was ended by a signal. -/
  | killed (signal : Nat)
  /-- The program was ended by a signal and left an image of its memory. -/
  | dumped (signal : Nat)
  deriving DecidableEq, Repr

namespace Ending

/-- Whether the program ended with success. -/
def isSuccess : Ending → Bool
  | exited code => code == 0
  | killed _ | dumped _ => false

/-- The names of the signals, from signal 1 on. -/
def signalNames : List String :=
  ["SIGHUP", "SIGINT", "SIGQUIT", "SIGILL", "SIGTRAP", "SIGABRT", "SIGBUS", "SIGFPE", "SIGKILL",
    "SIGUSR1", "SIGSEGV", "SIGUSR2", "SIGPIPE", "SIGALRM", "SIGTERM", "SIGSTKFLT", "SIGCHLD",
    "SIGCONT", "SIGSTOP", "SIGTSTP", "SIGTTIN", "SIGTTOU", "SIGURG", "SIGXCPU", "SIGXFSZ",
    "SIGVTALRM", "SIGPROF", "SIGWINCH", "SIGIO", "SIGPWR", "SIGSYS"]

/-- The name of a signal, if it has one. -/
def signalName? : Nat → Option String
  | 0 => none
  | n + 1 => signalNames[n]?

/-- A signal, with its name if it has one. -/
def signalText (signal : Nat) : Text :=
  "signal: ".toList ++ natText signal ++
    match signalName? signal with
    | some name => " (".toList ++ name.toList ++ ")".toList
    | none => []

/-- The way a program ended, in words. -/
def text : Ending → Text
  | exited code => "exit status: ".toList ++ natText code
  | killed signal => signalText signal
  | dumped signal => signalText signal ++ " (core dumped)".toList

end Ending

/-- What a program left behind. -/
structure ProcessOutput where
  /-- The bytes of its standard output. -/
  stdout : List UInt8
  /-- The bytes of its error output. -/
  stderr : List UInt8
  /-- How it ended. -/
  ending : Ending
  deriving DecidableEq, Repr

namespace ProcessOutput

/-- A text with its continued lines joined: every backslash before a line break goes, together
with the line break. -/
def joinLines (t : Text) : Text := Text.erase ['\\', '\n'] t

/-- The value that an answer denotes: a number when the number is written exactly like the answer,
and the answer itself otherwise. -/
def valueOf (answer : Text) : Value :=
  match Number.parse? answer with
  | some n => if n.text = answer then .number n else .string answer
  | none => .string answer

/-- The value that a program printed. -/
def readAnswer (printed : Text) : Except EvaluatorError Value :=
  match Text.trim (joinLines printed) with
  | [] => .error (.failed "Evaluator produced no output".toList)
  | answer => .ok (valueOf answer)

/-- The error output as a text, without the blanks around it. -/
def complaint (output : ProcessOutput) : Text := Text.trim (Utf8.decodeLossy output.stderr)

/-- What the output of a program says. -/
def interpret (output : ProcessOutput) : Except EvaluatorError Value :=
  match output.complaint with
  | [] =>
    if output.ending.isSuccess then readAnswer (Utf8.decodeLossy output.stdout)
    else .error (.failed ("Evaluator exited with ".toList ++ output.ending.text))
  | complaint => .error (.failed complaint)

end ProcessOutput

end ExprGate
