import ExprGate.CommandLine.Run

/-!
# The program

The outer layer: it fetches what a run needs, and prints what the run says. No evaluator program is
started from here; an expression that was admitted is reported with that cause.
-/

namespace ExprGate.Main

/-- The cause of a failure of the file system. -/
def cause : IO.Error → Text
  | .noFileOrDirectory _ _ _ => "No such file or directory (os error 2)".toList
  | .permissionDenied _ _ _ => "Permission denied (os error 13)".toList
  | .inappropriateType _ _ _ => "Is a directory (os error 21)".toList
  | e => e.toString.toList

/-- The text of the file at a path. -/
def readFile (path : Text) : IO (Except Text Text) := do
  try
    let bytes ← IO.FS.readBinFile path.toString
    match Utf8.decode? bytes.toList with
    | some text => return .ok text
    | none => return .error "stream did not contain valid UTF-8".toList
  catch e => return .error (cause e)

/-- The rest of a stream. -/
partial def readAll (stream : IO.FS.Stream) (read : ByteArray) : IO ByteArray := do
  let more ← stream.read 65536
  if more.isEmpty then return read else readAll stream (read ++ more)

/-- Whether an action takes its input from the standard input. -/
def readsStdin : Action → Bool
  | .parse input => input.isNone
  | .check input _ => input.isNone
  | .calculate input _ => input.isNone
  | .showConfig => false

/-- What a run with the given arguments needs. -/
def environment (words : List Text) : IO Environment := do
  let host : Host := fun _ => .notStarted "Programs cannot be started here".toList
  match Arguments.parse words with
  | .error _ => return { file := fun _ => .error [], stdin := [], host }
  | .ok line =>
    let contents ←
      match line.config with
      | some path => readFile path
      | none => pure (.error [])
    let stdin ←
      if readsStdin line.action then
        pure (← readAll (← IO.getStdin) ByteArray.empty).toList
      else pure []
    return { file := fun _ => contents, stdin, host }

end ExprGate.Main

open ExprGate in
/-- Runs the program with the given arguments. -/
def main (args : List String) : IO UInt32 := do
  let words := args.map String.toList
  let result := CommandLine.runArguments (← ExprGate.Main.environment words) words
  IO.print result.stdout.toString
  if let some message := result.error then
    IO.eprintln message.toString
  return UInt32.ofNat result.code
