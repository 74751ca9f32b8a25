import ExprGate.Yaml.Node
import ExprGate.Yaml.PlainMeaning

/-!
# Fields of records in YAML

How a record is found in a node. A record is a mapping, whose unknown members are ignored and whose
known members must not occur twice, or a sequence that gives the fields in order and may stop
early, or nothing at all. Texts may be written in any style, numbers only plainly.
-/

namespace ExprGate.Yaml.Node

/-- The text of a node, if it is a scalar. -/
def text? : Node → Option Text
  | scalar _ _ text => some text
  | _ => none

/-- Whether a node is an empty plain scalar, which is what stands where nothing is written. -/
def isEmpty : Node → Bool
  | scalar _ style text => style == .plain && text.isEmpty
  | _ => false

/-- The values of the members with the given name. -/
def valuesOf (name : Text) (members : List (Node × Node)) : List Node :=
  (members.filter fun member => member.1.text? == some name).map Prod.snd

/-- What a node says about each of the named fields, if it can be a record with these. -/
def fields? (names : List String) (node : Node) : Option (List (Option Node)) :=
  match node with
  | mapping members =>
    if members.all (fun member => member.1.text?.isSome) &&
        names.all (fun name => (valuesOf name.toList members).length ≤ 1) then
      some (names.map fun name => (valuesOf name.toList members).head?)
    else none
  | sequence items =>
    if items.length ≤ names.length then
      some (items.map some ++ List.replicate (names.length - items.length) none)
    else none
  | _ => if node.isEmpty then some (names.map fun _ => none) else none

/-- The tag of integers. -/
def integerTag : Text := "tag:yaml.org,2002:int".toList

/-- The tag of nothing. -/
def nullTag : Text := "tag:yaml.org,2002:null".toList

/-- A natural number of at most 64 bits: a plain scalar, or a block of lines with the tag of
integers. -/
def nat64? : Node → Option Nat
  | scalar tag style text =>
    if style = .plain ∨ (style = .literal ∧ tag = some integerTag) then
      match natural? text with
      | some n => if n < wordBound then some n else none
      | none => none
    else none
  | _ => none

/-- A list of texts; nothing at all is the empty list. -/
def texts? (node : Node) : Option (List Text) :=
  match node with
  | sequence items => items.mapM text?
  | _ => if node.isEmpty then some [] else none

/-- A text that may be left out: a plain scalar that is empty or spells nothing is none, unless its
tag says otherwise. -/
def optionalText? : Node → Option (Option Text)
  | scalar tag style text =>
    match style, tag with
    | .plain, none => some (if text.isEmpty || isNullWord text then none else some text)
    | .plain, some tag =>
      if tag = nullTag then if isNullWord text then some none else none
      else some (some text)
    | _, _ => some (some text)
  | _ => none

end ExprGate.Yaml.Node
