import ExprGate.Yaml.Scalar

/-!
# Tags and directives

A tag says what kind of value a node holds. It is written in full between angle brackets, or as a
handle, which stands for the beginning of tags, with the rest behind it. Two handles are always
known. The lines in front of a document, its directives, may declare others, and may state the
version of YAML.
-/

namespace ExprGate.Yaml

/-- The characters of names. -/
def isNameCharacter (c : Char) : Bool := c.isAlphanum || c == '-' || c == '_'

/-! ## Handles -/

/-- What the handles of tags stand for. -/
abbrev Handles := List (Text × Text)

/-- The handles that are always known: one mark starts a tag of its own, two marks abbreviate the
common tags. -/
def Handles.standard : Handles :=
  [(['!'], ['!']), (['!', '!'], "tag:yaml.org,2002:".toList)]

/-- The tag that a handle and the text behind it make up, if the handle is known. -/
def Handles.expand? (handles : Handles) (handle rest : Text) : Option Text :=
  (handles.lookup handle).map (· ++ rest)

/-- Reads a handle: an exclamation mark alone, or a name between two of them. -/
def readHandle : Text → Option (Text × Text)
  | '!' :: rest =>
    let name := rest.takeWhile isNameCharacter
    match rest.dropWhile isNameCharacter with
    | '!' :: more => some ('!' :: name ++ ['!'], more)
    | more => if name.isEmpty then some (['!'], more) else none
  | _ => none

/-! ## Tags -/

/-- The characters of tags, some of which stand only in tags that are written in full. -/
def isTagCharacter (full : Bool) (c : Char) : Bool :=
  isNameCharacter c || ";/?:@&=+$.!~*'()".toList.contains c || (full && ",[]".toList.contains c)

/-- How many octets of UTF-8 follow the first one of a character. -/
def octetsAfter? (octet : Nat) : Option Nat :=
  if octet < 0x80 then some 0
  else if octet / 32 = 6 then some 1
  else if octet / 16 = 14 then some 2
  else if octet / 8 = 30 then some 3
  else none

/-- Reads the characters of a tag. A percent sign and two hexadecimal digits give an octet; octets
beyond ASCII, of which the first argument counts the missing ones, make up characters of UTF-8. -/
def readTagText (full : Bool) : Nat → Text → Option (Text × Text)
  | missing, '%' :: a :: b :: rest =>
    match digit? 16 a, digit? 16 b with
    | some high, some low =>
      let octet := high * 16 + low
      let missing? :=
        if missing = 0 then octetsAfter? octet
        else if octet / 64 = 2 then some (missing - 1)
        else none
      match missing? with
      | some missing =>
        match readTagText full missing rest with
        | some (tag, next) => some (Char.ofNat octet :: tag, next)
        | none => none
      | none => none
    | _, _ => none
  | 0, c :: rest =>
    if c == '%' then none
    else if isTagCharacter full c then
      match readTagText full 0 rest with
      | some (tag, next) => some (c :: tag, next)
      | none => none
    else some ([], c :: rest)
  | 0, [] => some ([], [])
  | _ + 1, _ => none

/-- Reads a tag in full form after the marks that open it. -/
def readFullTag (t : Text) : Option (Text × Text) := do
  let (tag, rest) ← readTagText true 0 t
  match rest with
  | '>' :: rest => if tag.isEmpty then none else some (tag, rest)
  | _ => none

/-- Reads a tag that starts with a handle. The text behind a single exclamation mark may be
missing. -/
def readShortTag (handles : Handles) (t : Text) : Option (Text × Text) :=
  match readHandle t with
  | some ('!' :: c :: name, rest) => do
    let (suffix, rest) ← readTagText false 0 rest
    if suffix.isEmpty then none
    else (handles.expand? ('!' :: c :: name) suffix).map fun tag => (tag, rest)
  | _ => do
    let (suffix, rest) ← readTagText false 0 (t.drop 1)
    if suffix.isEmpty then some (['!'], rest)
    else (handles.expand? ['!'] suffix).map fun tag => (tag, rest)

/-- Reads a tag, which a blank has to follow. -/
def readTag (handles : Handles) (inFlow : Bool) (cur : Cursor) : Option (Text × Cursor) := do
  let (tag, rest) ←
    match cur.rest with
    | '!' :: '<' :: rest => readFullTag rest
    | rest => readShortTag handles rest
  if endsWord rest || (inFlow && rest.head? == some ',') then
    return (tag, cur.advance (cur.rest.length - rest.length) false)
  else none

/-! ## Directives -/

/-- What the directives in front of a document say. -/
structure Directives where
  /-- Whether the version is stated. -/
  version : Bool
  /-- The handles that are declared. -/
  handles : Handles
  deriving DecidableEq, Repr

namespace Directives

/-- No directives. -/
def empty : Directives := ⟨false, []⟩

/-- Every handle that is known behind the directives. Declarations come before what is always
known. -/
def knownHandles (d : Directives) : Handles := d.handles ++ Handles.standard

end Directives

/-- Reads a number of at most nine digits. -/
def readShortNumber (t : Text) : Option (Nat × Text) :=
  let digits := t.takeWhile Char.isDigit
  if digits.isEmpty || 9 < digits.length then none
  else some (natOfDigits digits, t.dropWhile Char.isDigit)

/-- Reads a version of YAML, which is 1.1 or 1.2. -/
def readVersion (t : Text) : Option Text := do
  let (major, rest) ← readShortNumber t
  match rest with
  | '.' :: rest =>
    let (minor, rest) ← readShortNumber rest
    if major = 1 ∧ (minor = 1 ∨ minor = 2) then some rest else none
  | _ => none

/-- Reads the declaration of a handle: the handle, blanks, and what it stands for. -/
def readDeclaration (t : Text) : Option ((Text × Text) × Text) := do
  let (handle, rest) ← readHandle t
  if rest.head?.any isGap then
    let (start, rest) ← readTagText true 0 (rest.dropWhile isGap)
    if start.isEmpty || !endsWord rest then none else some ((handle, start), rest)
  else none

/-- Takes in a directive, given by its line without the percent sign. The version is stated at most
once, no handle is declared twice, and a comment may end the line. -/
def Directives.add? (d : Directives) (line : Text) : Option Directives := do
  let name := line.takeWhile isNameCharacter
  let rest := line.drop name.length
  let (d, rest) ←
    if !endsWord rest then none
    else if name = "YAML".toList then
      if d.version then none
      else (readVersion (rest.dropWhile isGap)).map fun rest => ({ d with version := true }, rest)
    else if name = "TAG".toList then
      match readDeclaration (rest.dropWhile isGap) with
      | some ((handle, start), rest) =>
        if (d.handles.lookup handle).isSome then none
        else some ({ d with handles := (handle, start) :: d.handles }, rest)
      | none => none
    else none
  if (restOfLine? rest).isSome then return d else none

/-- Reads the directives in front of a document, at most `fuel` of them. -/
def readDirectives : Nat → Directives → Cursor → Option (Directives × Cursor)
  | fuel, d, cur =>
    let cur := cur.skip false
    match cur.rest with
    | '%' :: rest =>
      if cur.column = 0 then
        match fuel with
        | 0 => none
        | fuel + 1 => do
          let line := rest.takeWhile (!isBreak ·)
          readDirectives fuel (← d.add? line) (cur.advance (line.length + 1) true)
      else none
    | _ => some (d, cur)

end ExprGate.Yaml
