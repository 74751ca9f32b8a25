import ExprGate.Text.Basic

/-!
# Path names

The parts of a path, which slashes separate. Empty parts and single dots name no step of their
own, so a path ends with its last part that is neither.
-/

namespace ExprGate.PathName

/-- The pieces of a text between the occurrences of a character. -/
def splitAt (separator : Char) : Text → List Text
  | [] => [[]]
  | c :: rest =>
    if c = separator then [] :: splitAt separator rest
    else
      match splitAt separator rest with
      | [] => [[c]]
      | piece :: pieces => (c :: piece) :: pieces

/-- The parts of a path that name a step. -/
def parts (path : Text) : List Text :=
  (splitAt '/' path).filter fun part => !part.isEmpty && part != ['.']

/-- The name of the file that a path leads to; there is none when the path is empty or ends by
going up. -/
def fileName? (path : Text) : Option Text :=
  match (parts path).getLast? with
  | none => none
  | some part => if part = ['.', '.'] then none else some part

/-- The extension of a file name: what follows its last dot, unless that dot comes first. -/
def extensionOf? (name : Text) : Option Text :=
  match name.reverse.dropWhile (· != '.') with
  | [] | [_] => none
  | _ => some (name.reverse.takeWhile (· != '.')).reverse

/-- The extension of the file that a path leads to. -/
def extension? (path : Text) : Option Text := (fileName? path).bind extensionOf?

/-- Whether the path leads to a file with the given extension, in any case. -/
def hasExtension (extension path : Text) : Bool :=
  match extension? path with
  | some e => Text.eqIgnoringCase e extension
  | none => false

end ExprGate.PathName
