import ExprGate.Text.Basic

/-!
# YAML documents

A document is a tree of scalars, sequences and mappings. A node may be given a name and repeated
later on under that name; `Node.resolve?` puts the repeated nodes in place.
-/

namespace ExprGate.Yaml

/-- The ways to write a scalar. -/
inductive Style
  | plain
  | singleQuoted
  | doubleQuoted
  | literal
  | folded
  deriving DecidableEq, Repr

/-- A node of a document. -/
inductive Node
  /-- A text, with the tag and the style that it was written with. -/
  | scalar (tag : Option Text) (style : Style) (text : Text)
  | sequence (items : List Node)
  | mapping (members : List (Node × Node))
  /-- A node that is given a name. -/
  | anchored (name : Text) (node : Node)
  /-- The node that was given the name. -/
  | repeated (name : Text)
  deriving Repr

namespace Node

/-- What stands where nothing is written. -/
def empty : Node := scalar none .plain []

/-- The nodes that have been named so far, the latest first. A node that its own name occurs in has
no value yet. -/
abbrev Names := List (Text × Option Node)

mutual

/-- The node with named nodes in the places where they are repeated, and the names known after it.
There is none when a name is unknown. A node that repeats itself is left as a name. -/
def resolveFrom (names : Names) : Node → Option (Node × Names)
  | scalar tag style text => some (scalar tag style text, names)
  | sequence items =>
    match resolveItems names items with
    | some (items, names) => some (sequence items, names)
    | none => none
  | mapping members =>
    match resolveMembers names members with
    | some (members, names) => some (mapping members, names)
    | none => none
  | anchored name node =>
    match resolveFrom ((name, none) :: names) node with
    | some (node, names) => some (node, (name, some node) :: names)
    | none => none
  | repeated name =>
    match names.lookup name with
    | some (some node) => some (node, names)
    | some none => some (repeated name, names)
    | none => none

/-- The items with named nodes in place. -/
def resolveItems (names : Names) : List Node → Option (List Node × Names)
  | [] => some ([], names)
  | item :: items =>
    match resolveFrom names item with
    | none => none
    | some (item, names) =>
      match resolveItems names items with
      | none => none
      | some (items, names) => some (item :: items, names)

/-- The members with named nodes in place. -/
def resolveMembers (names : Names) : List (Node × Node) → Option (List (Node × Node) × Names)
  | [] => some ([], names)
  | (key, value) :: members =>
    match resolveFrom names key with
    | none => none
    | some (key, names) =>
      match resolveFrom names value with
      | none => none
      | some (value, names) =>
        match resolveMembers names members with
        | none => none
        | some (members, names) => some ((key, value) :: members, names)

end

/-- The node with named nodes in the places where they are repeated, if every name is known. -/
def resolve? (node : Node) : Option Node := (resolveFrom [] node).map Prod.fst

end Node

end ExprGate.Yaml
