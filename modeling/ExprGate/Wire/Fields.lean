import ExprGate.Json.Reader
import ExprGate.Json.Writer
import ExprGate.Powers

/-!
# Fields of records

How a record is found in a JSON value. A record is an object, whose unknown members are ignored and
whose known members must not occur twice, or an array that gives the fields in order and may stop
early. Each field then decides what it accepts and whether it may be missing.
-/

namespace ExprGate.Wire

/-- How often a member of the given name occurs. -/
def occurrences (name : Text) (members : List (Option Text × Json)) : Nat :=
  members.countP fun member => member.1 == some name

/-- The value of the first member of the given name. -/
def member? (name : Text) (members : List (Option Text × Json)) : Option Json :=
  (members.find? fun member => member.1 == some name).map Prod.snd

/-- What a JSON value says about each of the named fields, if it can be a record with these. -/
def fields? (names : List String) : Json → Option (List (Option Json))
  | .object members =>
    if members.all (fun member => member.1.isSome) &&
        names.all (fun name => occurrences name.toList members ≤ 1) then
      some (names.map fun name => member? name.toList members)
    else none
  | .array items =>
    if items.length ≤ names.length then
      some (items.map some ++ List.replicate (names.length - items.length) none)
    else none
  | _ => none

/-- A text. -/
def text? : Json → Option Text
  | .string t => t
  | _ => none

/-- A truth value. -/
def bool? : Json → Option Bool
  | .bool b => some b
  | _ => none

/-- A natural number of at most 64 bits, written without sign, point and exponent. -/
def nat64? : Json → Option Nat
  | .number ⟨false, whole, none, none⟩ =>
    if natOfDigits whole < wordBound then some (natOfDigits whole) else none
  | _ => none

/-- A list whose items are all accepted. -/
def list? {α : Type} (item? : Json → Option α) : Json → Option (List α)
  | .array items => items.mapM item?
  | _ => none

/-- A field that must be present. -/
def required {α : Type} (read? : Json → Option α) : Option Json → Option α
  | some j => read? j
  | none => none

/-- A field that has a default when it is missing. -/
def withDefault {α : Type} (default : α) (read? : Json → Option α) : Option Json → Option α
  | some j => read? j
  | none => some default

/-- A field that may be missing or null. -/
def optional {α : Type} (read? : Json → Option α) : Option Json → Option (Option α)
  | some .null => some none
  | some j => (read? j).map some
  | none => some none

/-- One of several named choices: its name as a string, or an object whose only member has that
name and is null. -/
def choice? {α : Type} (choices : List α) (name : α → String) : Json → Option α
  | .string (some t) => choices.find? fun a => (name a).toList == t
  | .object [(some t, .null)] => choices.find? fun a => (name a).toList == t
  | _ => none

end ExprGate.Wire
