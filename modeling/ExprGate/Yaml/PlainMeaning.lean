import ExprGate.Powers
import ExprGate.Text.Basic

/-!
# The meaning of plain scalars

A scalar without quotation marks may be more than its text: nothing, a truth value or a number.
Whoever writes a text that reads as one of these has to quote it.
-/

namespace ExprGate.Yaml

/-- The spellings of nothing. -/
def isNullWord (t : Text) : Bool :=
  ["null", "Null", "NULL", "~"].any fun word => word.toList == t

/-- The spellings of the truth values. -/
def isBoolWord (t : Text) : Bool :=
  ["true", "True", "TRUE", "false", "False", "FALSE"].any fun word => word.toList == t

/-- The value of a digit in a base of at most sixteen. -/
def digit? (base : Nat) (c : Char) : Option Nat :=
  let value :=
    if '0' ≤ c ∧ c ≤ '9' then c.toNat - 48
    else if 'a' ≤ c ∧ c ≤ 'f' then c.toNat - 87
    else if 'A' ≤ c ∧ c ≤ 'F' then c.toNat - 55
    else base
  if value < base then some value else none

/-- The number that digits write in a base, continuing from a number already read. -/
def numberFrom? (base : Nat) : Nat → Text → Option Nat
  | n, [] => some n
  | n, c :: rest =>
    match digit? base c with
    | some d => numberFrom? base (n * base + d) rest
    | none => none

/-- The number that at least one digit writes in a base. -/
def number? (base : Nat) : Text → Option Nat
  | [] => none
  | digits => numberFrom? base 0 digits

/-- More than one decimal digit, the first of which is zero: no number, but easily taken for
one. -/
def hasLeadingZero : Text → Bool
  | '0' :: c :: rest => (c :: rest).all Char.isDigit
  | _ => false

/-- The number that is written without a sign, in base sixteen, eight, two or ten. -/
def magnitude? : Text → Option Nat
  | '0' :: 'x' :: digits => number? 16 digits
  | '0' :: 'o' :: digits => number? 8 digits
  | '0' :: 'b' :: digits => number? 2 digits
  | digits => if hasLeadingZero digits then none else number? 10 digits

/-- The natural number that a plain scalar writes; it may start with a plus sign, and zero with a
minus sign. -/
def natural? : Text → Option Nat
  | '+' :: rest => magnitude? rest
  | '-' :: rest => if magnitude? rest = some 0 then some 0 else none
  | t => magnitude? t

/-- Whether a plain scalar is an integer of at most 128 bits. -/
def isInteger (t : Text) : Bool :=
  match t with
  | '-' :: rest =>
    match magnitude? rest with
    | some n => n ≤ twoTo 127
    | none => false
  | _ =>
    match natural? t with
    | some n => n < twoTo 128
    | none => false

/-- Whether a decimal number, so many units of a power of ten, is too large for a double. -/
def exceedsDouble (significand : Nat) (power : Int) : Bool :=
  let places : Int := (natText significand).length + power
  if significand = 0 ∨ places < 309 then false
  else if 309 < places then true
  else twoTo 1024 - twoTo 970 ≤
    if 0 ≤ power then significand * tenTo power.toNat else significand / tenTo power.natAbs

/-- The exponent of a decimal number: digits after the letter and a sign, or nothing at all. -/
def exponent? : Text → Option Int
  | [] => some 0
  | c :: rest =>
    if c = 'e' ∨ c = 'E' then
      match rest with
      | '-' :: digits => (number? 10 digits).map fun n => -(n : Int)
      | '+' :: digits => (number? 10 digits).map Int.ofNat
      | digits => (number? 10 digits).map Int.ofNat
    else none

/-- Whether a text without a sign is a decimal number within the range of doubles. -/
def isFiniteDecimal (t : Text) : Bool :=
  let whole := t.takeWhile Char.isDigit
  let rest := t.dropWhile Char.isDigit
  let (fraction, rest) :=
    match rest with
    | '.' :: rest => (rest.takeWhile Char.isDigit, rest.dropWhile Char.isDigit)
    | _ => ([], rest)
  match exponent? rest with
  | some e =>
    !(whole ++ fraction).isEmpty &&
      !exceedsDouble (natOfDigits (whole ++ fraction)) (e - fraction.length)
  | none => false

/-- The spellings of infinity. -/
def isInfinityWord (t : Text) : Bool :=
  [".inf", ".Inf", ".INF"].any fun word => word.toList == t

/-- The spellings of what is not a number. -/
def isNanWord (t : Text) : Bool :=
  [".nan", ".NaN", ".NAN"].any fun word => word.toList == t

/-- Whether a plain scalar is a number with a point or an exponent, or stands for one. -/
def isFloat (t : Text) : Bool :=
  isNanWord t ||
    match t with
    | '+' :: rest => isInfinityWord rest || isFiniteDecimal rest
    | '-' :: rest => isInfinityWord rest || isFiniteDecimal rest
    | _ => isInfinityWord t || isFiniteDecimal t

/-- Whether a plain scalar is, or could be taken for, something other than its text. -/
def hasPlainMeaning (t : Text) : Bool :=
  t.isEmpty || isNullWord t || isBoolWord t || isInteger t || isFloat t ||
    match t with
    | '+' :: rest => hasLeadingZero rest
    | '-' :: rest => hasLeadingZero rest
    | _ => hasLeadingZero t

end ExprGate.Yaml
