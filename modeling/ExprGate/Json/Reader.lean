import ExprGate.Json.Basic

/-!
# Reading JSON

Each reader takes a text and gives what it read together with the rest of the text, or nothing when
the text does not start that way.
-/

namespace ExprGate.Json

/-- The text without the blanks at its start. -/
def skipSpace (t : Text) : Text := t.dropWhile isSpace

/-- The value of a hexadecimal digit. -/
def hexDigit? (c : Char) : Option Nat :=
  if c.isDigit then some (c.toNat - 48)
  else if 'a' ≤ c ∧ c ≤ 'f' then some (c.toNat - 87)
  else if 'A' ≤ c ∧ c ≤ 'F' then some (c.toNat - 55)
  else none

/-- The value of four hexadecimal digits. -/
def hexUnit? (a b c d : Char) : Option Nat := do
  let a ← hexDigit? a
  let b ← hexDigit? b
  let c ← hexDigit? c
  let d ← hexDigit? d
  return ((a * 16 + b) * 16 + c) * 16 + d

/-- The character that a one-letter escape stands for. -/
def escaped? : Char → Option Char
  | '"' => some '"'
  | '\\' => some '\\'
  | '/' => some '/'
  | 'b' => some '\x08'
  | 'f' => some '\x0c'
  | 'n' => some '\n'
  | 'r' => some '\r'
  | 't' => some '\t'
  | _ => none

/-- One element of a string: a character, or the UTF-16 unit that a numeric escape names. -/
inductive StringPiece
  | char (c : Char)
  | unit (n : Nat)
  deriving DecidableEq, Repr

/-- Reads the pieces of a string up to and including its closing quotation mark. -/
def readPieces : Text → Option (List StringPiece × Text)
  | [] => none
  | '"' :: rest => some ([], rest)
  | '\\' :: 'u' :: a :: b :: c :: d :: rest => do
    let n ← hexUnit? a b c d
    let (pieces, rest) ← readPieces rest
    return (.unit n :: pieces, rest)
  | '\\' :: c :: rest => do
    let e ← escaped? c
    let (pieces, rest) ← readPieces rest
    return (.char e :: pieces, rest)
  | c :: rest =>
    if c.toNat < 0x20 ∨ c = '\\' then none
    else do
      let (pieces, rest) ← readPieces rest
      return (.char c :: pieces, rest)

/-- Whether a UTF-16 unit is the first half of a surrogate pair. -/
def isHighSurrogate (n : Nat) : Bool := 0xD800 ≤ n && n < 0xDC00

/-- Whether a UTF-16 unit is the second half of a surrogate pair. -/
def isLowSurrogate (n : Nat) : Bool := 0xDC00 ≤ n && n < 0xE000

/-- The text that the pieces of a string denote, if no half of a surrogate pair stands alone. -/
def joinPieces : List StringPiece → Option Text
  | [] => some []
  | .char c :: rest => (joinPieces rest).map (c :: ·)
  | [.unit n] =>
    if isHighSurrogate n || isLowSurrogate n then none else some [Char.ofNat n]
  | .unit n :: .unit m :: rest =>
    if isHighSurrogate n then
      if isLowSurrogate m then
        (joinPieces rest).map
          (Char.ofNat (0x10000 + (n - 0xD800) * 0x400 + (m - 0xDC00)) :: ·)
      else none
    else if isLowSurrogate n then none
    else (joinPieces (.unit m :: rest)).map (Char.ofNat n :: ·)
  | .unit n :: .char c :: rest =>
    if isHighSurrogate n || isLowSurrogate n then none
    else (joinPieces (.char c :: rest)).map (Char.ofNat n :: ·)

/-- Reads a string after its opening quotation mark. -/
def readString (t : Text) : Option (Option Text × Text) :=
  (readPieces t).map fun (pieces, rest) => (joinPieces pieces, rest)

/-- Reads at least one digit. -/
def readDigits (t : Text) : Option (Text × Text) :=
  let digits := t.takeWhile Char.isDigit
  if digits.isEmpty then none else some (digits, t.dropWhile Char.isDigit)

/-- Reads the digits before the point: a lone zero, or digits that do not start with zero. -/
def readWhole : Text → Option (Text × Text)
  | '0' :: rest => some (['0'], rest)
  | t => readDigits t

/-- Reads a point and the digits after it, if there is a point. -/
def readFraction : Text → Option (Option Text × Text)
  | '.' :: rest => (readDigits rest).map fun (digits, rest) => (some digits, rest)
  | t => some (none, t)

/-- Reads the sign of an exponent. -/
def readExponentSign : Text → Bool × Text
  | '-' :: rest => (true, rest)
  | '+' :: rest => (false, rest)
  | t => (false, t)

/-- Reads an exponent, if there is one. -/
def readExponent : Text → Option (Option (Bool × Text) × Text)
  | [] => some (none, [])
  | c :: rest =>
    if c = 'e' ∨ c = 'E' then
      let (negative, rest) := readExponentSign rest
      (readDigits rest).map fun (digits, rest) => (some (negative, digits), rest)
    else some (none, c :: rest)

/-- Reads a number that has no sign or whose sign was read before. -/
def readUnsigned (negative : Bool) (t : Text) : Option (Numeral × Text) := do
  let (whole, t) ← readWhole t
  let (fraction, t) ← readFraction t
  let (exponent, t) ← readExponent t
  return (⟨negative, whole, fraction, exponent⟩, t)

/-- Reads a number. -/
def readNumeral : Text → Option (Numeral × Text)
  | '-' :: rest => readUnsigned true rest
  | t => readUnsigned false t

mutual

/-- Reads a value. The first argument bounds the number of nested and repeated readings. -/
def readValue : Nat → Text → Option (Json × Text)
  | 0, _ => none
  | fuel + 1, t =>
    match skipSpace t with
    | 'n' :: 'u' :: 'l' :: 'l' :: rest => some (null, rest)
    | 't' :: 'r' :: 'u' :: 'e' :: rest => some (bool true, rest)
    | 'f' :: 'a' :: 'l' :: 's' :: 'e' :: rest => some (bool false, rest)
    | '"' :: rest => (readString rest).map fun (s, rest) => (string s, rest)
    | '[' :: rest =>
      match skipSpace rest with
      | ']' :: rest => some (array [], rest)
      | rest => (readItems fuel rest).map fun (items, rest) => (array items, rest)
    | '\x7b' :: rest =>
      match skipSpace rest with
      | '\x7d' :: rest => some (object [], rest)
      | rest => (readMembers fuel rest).map fun (members, rest) => (object members, rest)
    | t => (readNumeral t).map fun (n, rest) => (number n, rest)

/-- Reads the items of an array, at least one, up to and including the closing bracket. -/
def readItems : Nat → Text → Option (List Json × Text)
  | 0, _ => none
  | fuel + 1, t => do
    let (item, t) ← readValue fuel t
    match skipSpace t with
    | ',' :: rest =>
      let (items, rest) ← readItems fuel rest
      return (item :: items, rest)
    | ']' :: rest => return ([item], rest)
    | _ => none

/-- Reads the members of an object, at least one, up to and including the closing brace. -/
def readMembers : Nat → Text → Option (List (Option Text × Json) × Text)
  | 0, _ => none
  | fuel + 1, t =>
    match skipSpace t with
    | '"' :: rest => do
      let (name, rest) ← readString rest
      match skipSpace rest with
      | ':' :: rest =>
        let (value, rest) ← readValue fuel rest
        match skipSpace rest with
        | ',' :: rest =>
          let (members, rest) ← readMembers fuel rest
          return ((name, value) :: members, rest)
        | '\x7d' :: rest => return ([(name, value)], rest)
        | _ => none
      | _ => none
    | _ => none

end

/-- Reads a JSON text: one value, with nothing but blanks around it. -/
def parse? (t : Text) : Option Json := do
  let (value, rest) ← readValue (2 * t.length + 2) t
  if (skipSpace rest).isEmpty then return value else none

end ExprGate.Json
