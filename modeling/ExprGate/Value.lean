import ExprGate.Decimal
import ExprGate.Json.Reader
import ExprGate.Json.Writer

/-!
# Values

What an evaluator answers: any JSON value. Integers of 64 bits stay exact, every other number is a
double. The members of an object are kept in the order of their names, and a later member replaces
an earlier one of the same name.
-/

namespace ExprGate

/-- A number that an evaluator answers. -/
inductive Number
  /-- An integer from `-2 ^ 63` to `2 ^ 64 - 1`. -/
  | integer (n : Int)
  /-- A finite double. -/
  | double (x : Float)

namespace Number

/-- The largest significand that is kept while the digits of a number are read. -/
def maxSignificand : Nat := wordBound - 1

/-- Takes digits into a significand as long as it stays within 64 bits. Gives the significand and
the digits that were not taken. -/
def takeDigits (significand : Nat) : Text → Nat × Text
  | [] => (significand, [])
  | c :: rest =>
    if significand * 10 + digitValue c ≤ maxSignificand then
      takeDigits (significand * 10 + digitValue c) rest
    else (significand, c :: rest)

/-- The significand of a numeral within 64 bits, and the power of ten it has to be scaled by before
the exponent is taken into account. Digits that no longer fit are dropped, and those dropped before
the point each count for a power of ten. -/
def scaled (n : Numeral) : Nat × Int :=
  let (significand, dropped) := takeDigits 0 n.whole
  match n.fraction with
  | none => (significand, dropped.length)
  | some digits =>
    let (significand, rest) := takeDigits significand digits
    (significand, (dropped.length : Int) - ((digits.length : Int) - rest.length))

/-- The double nearest to a power of ten. -/
def powerOfTen (k : Nat) : Float := Float.ofScientific 1 false k

/-- Divides by a power of ten, in steps of at most 308 powers. -/
def divideDown (x : Float) (k : Nat) : Float :=
  if k ≤ 308 then x / powerOfTen k
  else if x == 0 then x
  else divideDown (x / powerOfTen 308) (k - 308)
termination_by k

/-- Multiplies by a power of ten, unless the result would not be finite. -/
def multiplyUp (x : Float) (k : Nat) : Option Float :=
  if k ≤ 308 then
    let y := x * powerOfTen k
    if y.isFinite then some y else none
  else if x == 0 then some x
  else none

/-- Scales a significand by a power of ten in double arithmetic. -/
def scale (significand : Nat) (power : Int) : Option Float :=
  let x := (UInt64.ofNat significand).toFloat
  if 0 ≤ power then multiplyUp x power.toNat else some (divideDown x power.natAbs)

/-- The exponent that a numeral states. An exponent of more than 31 bits makes every number but
zero too large when it is positive, and zero when it is negative, as any such exponent does. -/
def statedExponent (n : Numeral) : Int :=
  match n.exponent with
  | none => 0
  | some (negative, digits) =>
    if negative then -(natOfDigits digits : Int) else natOfDigits digits

/-- The double that a numeral denotes, unless it is too large. -/
def readDouble (n : Numeral) : Option Number :=
  let (significand, power) := scaled n
  (scale significand (power + statedExponent n)).map fun x =>
    double (if n.negative then -x else x)

/-- The number that a numeral denotes, unless it is too large. A numeral without point and exponent
is an integer when it fits; minus zero does not. -/
def ofNumeral? (n : Numeral) : Option Number :=
  match n.fraction, n.exponent with
  | none, none =>
    let v := natOfDigits n.whole
    if n.negative then
      if 0 < v ∧ v ≤ twoTo 63 then some (integer (-(v : Int))) else readDouble n
    else if v < wordBound then some (integer v) else readDouble n
  | _, _ => readDouble n

/-- The text of an integer. -/
def intText (n : Int) : Text := if n < 0 then '-' :: natText n.natAbs else natText n.natAbs

/-- The text of a number. -/
def text : Number → Text
  | integer n => intText n
  | double x => doubleText x

/-- The number that a text writes, when it is nothing but a number. -/
def parse? (t : Text) : Option Number :=
  match Json.readNumeral t with
  | some (n, []) => ofNumeral? n
  | _ => none

end Number

/-- A JSON value as an evaluator answers it. -/
inductive Value
  | null
  | bool (value : Bool)
  | number (n : Number)
  | string (t : Text)
  | array (items : List Value)
  | object (members : List (Text × Value))

namespace Value

/-- Puts a member into a list of members in the order of their names, in place of one that has the
same name. -/
def insert (name : Text) (value : Value) : List (Text × Value) → List (Text × Value)
  | [] => [(name, value)]
  | (n, v) :: rest =>
    if name = n then (name, value) :: rest
    else if Text.before name n then (name, value) :: (n, v) :: rest
    else (n, v) :: insert name value rest

/-- Arrays and objects may be nested at most this deep. -/
def maxDepth : Nat := 127

mutual

/-- The value that a syntax denotes, with at most `depth` further levels of nesting. -/
def ofJsonWithin (depth : Nat) : Json → Option Value
  | .null => some null
  | .bool b => some (bool b)
  | .number n => (Number.ofNumeral? n).map number
  | .string t => t.map string
  | .array items =>
    match depth with
    | 0 => none
    | depth + 1 => (itemsWithin depth items).map array
  | .object members =>
    match depth with
    | 0 => none
    | depth + 1 => (membersWithin depth members []).map object

/-- The values of the items of an array. -/
def itemsWithin (depth : Nat) : List Json → Option (List Value)
  | [] => some []
  | item :: items => do
    let v ← ofJsonWithin depth item
    let vs ← itemsWithin depth items
    return v :: vs

/-- The members of an object, put one after another into those collected so far. -/
def membersWithin (depth : Nat) :
    List (Option Text × Json) → List (Text × Value) → Option (List (Text × Value))
  | [], collected => some collected
  | (name, item) :: members, collected => do
    let n ← name
    let v ← ofJsonWithin depth item
    membersWithin depth members (insert n v collected)

end

/-- The value that a syntax denotes, if its numbers are in range, its strings are texts and it is
not nested too deep. -/
def ofJson? (j : Json) : Option Value := ofJsonWithin maxDepth j

/-- The value that a JSON text denotes. -/
def parse? (t : Text) : Option Value := (Json.parse? t).bind ofJson?

mutual

/-- The value as compact JSON. -/
def compact : Value → Text
  | null => "null".toList
  | bool true => "true".toList
  | bool false => "false".toList
  | number n => n.text
  | string t => Json.quote t
  | array items => '[' :: compactItems items ++ [']']
  | object members => '\x7b' :: compactMembers members ++ ['\x7d']

/-- The items of an array, with commas between them. -/
def compactItems : List Value → Text
  | [] => []
  | [item] => compact item
  | item :: items => compact item ++ ',' :: compactItems items

/-- The members of an object, with commas between them. -/
def compactMembers : List (Text × Value) → Text
  | [] => []
  | [(name, value)] => Json.quote name ++ ':' :: compact value
  | (name, value) :: members =>
    Json.quote name ++ ':' :: compact value ++ ',' :: compactMembers members

end

/-- The text in which a value is given to callers: a string is its own text, and any other value is
written as compact JSON. -/
def render : Value → Text
  | string t => t
  | v => v.compact

end Value

end ExprGate
