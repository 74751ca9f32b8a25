import ExprGate.Yaml.Node
import ExprGate.Yaml.Tag

/-!
# Reading YAML

Nodes are read from a position in a text. Inside brackets (flow style) line breaks are mere blanks.
Outside of them (block style) a node belongs to the innermost collection whose column it lies
beyond: the argument `least` is the first column that does. A key is recognised by the colon behind
it, so it has to be read before it is known to be one. The first argument of the recursive readers
bounds the number of their nested and repeated calls.
-/

namespace ExprGate.Yaml

open Cursor

/-! ## Names and tags -/

/-- The name and the tag that may stand in front of a node. -/
structure Properties where
  /-- The name that the node is given. -/
  anchor : Option Text
  /-- The tag of the node. -/
  tag : Option Text
  deriving DecidableEq, Repr

namespace Properties

/-- Neither name nor tag. -/
def none : Properties := ⟨.none, .none⟩

/-- Whether there is neither name nor tag. -/
def isNone (p : Properties) : Bool := p == none

/-- The node with its name. -/
def attach (p : Properties) (node : Node) : Node :=
  match p.anchor with
  | some name => .anchored name node
  | .none => node

/-- A scalar with its tag and name. An exclamation mark alone, which only says that the text is
meant as it stands, is no tag. -/
def scalar (p : Properties) (style : Style) (text : Text) : Node :=
  p.attach (.scalar (if p.tag = some ['!'] then .none else p.tag) style text)

/-- The empty scalar with its tag and name. -/
def empty (p : Properties) : Node := p.attach (.scalar p.tag .plain [])

end Properties

/-- The marks that may follow a name directly. -/
def endsName : Text → Bool
  | [] => true
  | c :: rest =>
    endsWord (c :: rest) || c == '?' || c == ':' || c == ',' || c == ']' || c == '\x7d' ||
      c == '%' || c == '@' || c == '\x60'

/-- Reads a name after the mark in front of it. -/
def readName (cur : Cursor) : Option (Text × Cursor) :=
  let name := (cur.rest.drop 1).takeWhile isNameCharacter
  let next := cur.advance (name.length + 1) false
  if name.isEmpty || !endsName next.rest then none else some (name, next)

/-- Reads at most one name and one tag, in either order, and moves on to what they belong to. -/
def readProperties (handles : Handles) (inFlow : Bool) (cur : Cursor) :
    Option (Properties × Cursor) :=
  match cur.rest.head? with
  | some '&' => do
    let (name, cur) ← readName cur
    let cur := cur.skip inFlow
    if cur.rest.head? = some '!' then
      let (tag, cur) ← readTag handles inFlow cur
      return (⟨some name, some tag⟩, cur.skip inFlow)
    else return (⟨some name, none⟩, cur)
  | some '!' => do
    let (tag, cur) ← readTag handles inFlow cur
    let cur := cur.skip inFlow
    if cur.rest.head? = some '&' then
      let (name, cur) ← readName cur
      return (⟨some name, some tag⟩, cur.skip inFlow)
    else return (⟨none, some tag⟩, cur)
  | _ => some (.none, cur)

/-- Reads a scalar that is plain or quoted. Where none starts, names and tags belong to an empty
one. -/
def readScalar (inFlow : Bool) (least : Nat) (p : Properties) (cur : Cursor) :
    Option (Node × Cursor) :=
  let written (style : Style) (result : Option (Text × Cursor)) : Option (Node × Cursor) :=
    result.map fun (text, next) => (p.scalar style text, next)
  match cur.rest with
  | '\'' :: rest =>
    written .singleQuoted (readSingleQuoted .none rest (cur.column + 1) cur.line)
  | '"' :: rest =>
    written .doubleQuoted (readDoubleQuoted (.open .none) rest (cur.column + 1) cur.line)
  | rest =>
    if startsPlain inFlow rest then
      written .plain (readPlainFrom inFlow least .none rest cur.column cur.line)
    else if p.isNone then none
    else some (p.empty, cur)

/-! ## Flow style -/

variable (handles : Handles)

/-- Whether one of the given marks stands at a position. -/
def atOneOf (marks : List Char) (cur : Cursor) : Bool := cur.rest.head?.any marks.contains

mutual

/-- Reads a node that is a scalar, a repeated node, or a collection in brackets. Where it is the
node of a block, `inFlow` is false. -/
def readFlowNode : Nat → Bool → Nat → Cursor → Option (Node × Cursor)
  | 0, _, _, _ => none
  | fuel + 1, inFlow, least, cur => do
    let (p, cur) ← readProperties handles inFlow cur
    if inFlow && cur.atEnd then none
    else
      match cur.rest with
      | '*' :: _ =>
        if p.isNone then (readName cur).map fun (name, next) => (.repeated name, next) else none
      | '[' :: _ => do
        let (items, next) ← readFlowItems fuel ((cur.advance 1 false).skip true)
        return (p.attach (.sequence items), next)
      | '\x7b' :: _ => do
        let (members, next) ← readFlowMembers fuel ((cur.advance 1 false).skip true)
        return (p.attach (.mapping members), next)
      | _ => readScalar inFlow least p cur

/-- Reads a node inside brackets, which is empty where one of the given marks stands. -/
def readFlowOrEmpty : Nat → List Char → Cursor → Option (Node × Cursor)
  | 0, _, _ => none
  | fuel + 1, marks, cur =>
    let cur := cur.skip true
    if atOneOf marks cur then some (.empty, cur) else readFlowNode fuel true 0 cur

/-- Reads the value of a member inside brackets, which is empty where there is no colon. -/
def readFlowValue : Nat → Char → Cursor → Option (Node × Cursor)
  | 0, _, _ => none
  | fuel + 1, close, cur =>
    let cur := cur.skip true
    if atOneOf [':'] cur then readFlowOrEmpty fuel [',', close] (cur.advance 1 false)
    else some (.empty, cur)

/-- Reads an entry inside brackets that the given mark closes: a key, and its value if the entry
has the form of a member. -/
def readFlowEntry : Nat → Char → Cursor → Option ((Node × Option Node) × Cursor)
  | 0, _, _ => none
  | fuel + 1, close, cur =>
    if atOneOf ['?'] cur then do
      let (key, next) ← readFlowOrEmpty fuel [':', ',', close] (cur.advance 1 false)
      let (value, next) ← readFlowValue fuel close next
      return ((key, some value), next)
    else do
      let (key, next) ← readFlowNode fuel true 0 cur
      let colon := next.skip true
      if atOneOf [':'] colon then
        if cur.spansKey colon then
          let (value, next) ← readFlowValue fuel close colon
          return ((key, some value), next)
        else none
      else return ((key, none), colon)

/-- Reads the entries up to the closing mark, with commas between them and perhaps one behind the
last. -/
def readFlowEntries : Nat → Char → Cursor → Option (List (Node × Option Node) × Cursor)
  | 0, _, _ => none
  | fuel + 1, close, cur =>
    if atOneOf [close] cur then some ([], cur.advance 1 false)
    else do
      let (entry, next) ← readFlowEntry fuel close cur
      let next := next.skip true
      if atOneOf [','] next then
        let (entries, next) ← readFlowEntries fuel close ((next.advance 1 false).skip true)
        return (entry :: entries, next)
      else if atOneOf [close] next then return ([entry], next.advance 1 false)
      else none

/-- Reads the items of a sequence in brackets. An item in the form of a member is a mapping with
that member only. -/
def readFlowItems : Nat → Cursor → Option (List Node × Cursor)
  | 0, _ => none
  | fuel + 1, cur =>
    (readFlowEntries fuel ']' cur).map fun (entries, next) =>
      (entries.map fun
        | (key, some value) => .mapping [(key, value)]
        | (item, none) => item, next)

/-- Reads the members of a mapping in brackets. A value that is missing is empty. -/
def readFlowMembers : Nat → Cursor → Option (List (Node × Node) × Cursor)
  | 0, _ => none
  | fuel + 1, cur =>
    (readFlowEntries fuel '\x7d' cur).map fun (entries, next) =>
      (entries.map fun (key, value) => (key, value.getD .empty), next)

end

/-! ## Block style -/

/-- Reads a key with the colon behind it, if there is one at this position. -/
def readKey (fuel least : Nat) (cur : Cursor) : Option (Node × Cursor) :=
  match readFlowNode handles fuel false least cur with
  | none => none
  | some (key, next) =>
    let colon := next.skip false
    if colon.atMark ':' && cur.spansKey colon then some (key, colon.advance 1 false) else none

mutual

/-- Reads a node at the column `least` or later. What lies before that column belongs to an outer
collection, and the node is empty; but a block of lines may start one column before, and so may a
sequence where `indentless` is set. -/
def readNode : Nat → Nat → Bool → Properties → Cursor → Option (Node × Cursor)
  | 0, _, _, _, _ => none
  | fuel + 1, least, indentless, p, cur =>
    let cur := cur.skip false
    if cur.atEnd then some (p.empty, cur)
    else if least ≤ cur.column ∨
        (cur.column + 1 = least ∧
          (atOneOf ['|', '>'] cur || (indentless && cur.fresh && cur.atMark '-'))) then
      readContent fuel least indentless p cur
    else some (p.empty, cur)

/-- Reads a node that is not empty: a block sequence, a block mapping, a block of lines, or a node
as inside brackets. Names and tags in a line of their own belong to what follows. -/
def readContent : Nat → Nat → Bool → Properties → Cursor → Option (Node × Cursor)
  | 0, _, _, _, _ => none
  | fuel + 1, least, indentless, p, cur =>
    if cur.atMark '-' then
      if cur.fresh then do
        let (items, next) ← readItems fuel cur.column cur
        return (p.attach (.sequence items), next)
      else none
    else if cur.fresh && (cur.atMark '?' || (readKey handles fuel least cur).isSome) then do
      let (members, next) ← readMembers fuel cur.column cur
      return (p.attach (.mapping members), next)
    else
      match cur.rest with
      | '|' :: rest =>
        (readBlock false least rest cur.line).map fun (text, next) =>
          (p.scalar .literal text, next)
      | '>' :: rest =>
        (readBlock true least rest cur.line).map fun (text, next) =>
          (p.scalar .folded text, next)
      | _ =>
        if p.isNone && atOneOf ['&', '!'] cur then do
          let (q, next) ← readProperties handles false cur
          readNode fuel least indentless q next
        else if !p.isNone && atOneOf ['&', '!', '*'] cur then none
        else
          match readFlowNode handles fuel false least cur with
          | some (node, next) =>
            match node with
            | .scalar _ style text => some (p.scalar style text, next)
            | node => some (p.attach node, next)
          | none => none

/-- Reads the items of a block sequence at the given column, up to the first line that does not
start with a dash there. -/
def readItems : Nat → Nat → Cursor → Option (List Node × Cursor)
  | 0, _, _ => none
  | fuel + 1, column, cur =>
    let cur := cur.skip false
    if !cur.atEnd && cur.column == column && cur.fresh && cur.atMark '-' then do
      let (item, next) ← readNode fuel (column + 1) false .none (cur.advance 1 true)
      let (items, next) ← readItems fuel column next
      return (item :: items, next)
    else some ([], cur)

/-- Reads the members of a block mapping at the given column, up to the first line that starts
before it. -/
def readMembers : Nat → Nat → Cursor → Option (List (Node × Node) × Cursor)
  | 0, _, _ => none
  | fuel + 1, column, cur =>
    let cur := cur.skip false
    if cur.atEnd || cur.column < column then some ([], cur)
    else if column < cur.column || !cur.fresh then none
    else do
      let (member, next) ← readMember fuel column cur
      let (members, next) ← readMembers fuel column next
      return (member :: members, next)

/-- Reads one member of a block mapping: a key with a colon behind it, or a key after a question
mark and a value after a colon in the same column. -/
def readMember : Nat → Nat → Cursor → Option ((Node × Node) × Cursor)
  | 0, _, _ => none
  | fuel + 1, column, cur =>
    if cur.atMark '?' then do
      let (key, next) ← readNode fuel (column + 1) true .none (cur.advance 1 true)
      let next := next.skip false
      if !next.atEnd && next.column == column && next.fresh && next.atMark ':' then
        let (value, next) ← readNode fuel (column + 1) true .none (next.advance 1 true)
        return ((key, value), next)
      else return ((key, .empty), next)
    else do
      let (key, next) ← readKey handles fuel (column + 1) cur
      let (value, next) ← readNode fuel (column + 1) true .none next
      return ((key, value), next)

end

/-! ## Documents -/

/-- The text with a line feed for every line break of ASCII and Latin-1. -/
def unifyBreaks : Text → Text
  | '\r' :: '\n' :: rest => '\n' :: unifyBreaks rest
  | c :: rest => (if c = '\r' ∨ c = '\u0085' then '\n' else c) :: unifyBreaks rest
  | [] => []

/-- Moves behind the line that starts the document, if there is one. It has to be there when
directives stand in front of it. With the position come the handles that are known in the
document. -/
def readStart (cur : Cursor) : Option (Handles × Cursor) := do
  let (directives, cur) ← readDirectives cur.rest.length .empty cur
  if cur.column == 0 && isDocumentMarker cur.rest then
    if cur.rest.head? == some '-' then return (directives.knownHandles, cur.advance 3 false)
    else none
  else if directives = .empty then return (directives.knownHandles, cur)
  else none

/-- Whether nothing but lines that end documents follows. -/
def endsStream : Nat → Cursor → Bool
  | 0, _ => false
  | fuel + 1, cur =>
    let cur := cur.skip false
    cur.rest.isEmpty ||
      (cur.column == 0 && isDocumentMarker cur.rest && cur.rest.head? == some '.' &&
        endsStream fuel (cur.advance 3 false))

/-- The node of a text that holds one document, with repeated nodes in place. An empty text holds
an empty document. -/
def parse? (source : Text) : Option Node := do
  let source := if source.head? = some '\ufeff' then source.drop 1 else source
  if !source.all isReadable then none
  else
    let text := unifyBreaks source
    let (handles, cur) ← readStart (.start text)
    let (node, cur) ← readNode handles (8 * text.length + 8) 0 false .none cur
    if endsStream (text.length + 1) cur then node.resolve? else none

end ExprGate.Yaml
