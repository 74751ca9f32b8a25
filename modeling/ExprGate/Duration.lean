import ExprGate.Powers
import ExprGate.Text.Basic

/-!
# Durations

A duration is a number of nanoseconds. Its text lists amounts of units, such as `1m 30s`; reading
adds the amounts up, and writing takes as much as possible of each unit, the largest first. Years
and months are fixed numbers of seconds. Reading works in words of 64 bits and refuses a text
whose amounts leave them. It drops nothing either: a fraction of a unit has to come out as a whole
number of nanoseconds, or of seconds where the unit is an hour or longer.
-/

namespace ExprGate

/-- A span of time. -/
structure Duration where
  /-- The length in nanoseconds. -/
  nanos : Nat
  deriving DecidableEq, Repr

namespace Duration

/-- The number of nanoseconds in a second. -/
def second : Nat := 1000000000

/-- The duration of so many seconds. -/
def ofSeconds (n : Nat) : Duration := { nanos := n * second }

/-- The duration of so many milliseconds. -/
def ofMillis (n : Nat) : Duration := { nanos := n * 1000000 }

/-- The whole seconds of a duration. -/
def seconds (d : Duration) : Nat := d.nanos / second

/-- The nanoseconds beyond the whole seconds of a duration. -/
def subsecond (d : Duration) : Nat := d.nanos % second

/-- The two counts that a duration is made of. -/
inductive Count
  | nanoseconds
  | seconds
  deriving DecidableEq, Repr

/-- What a unit is worth. -/
structure Worth where
  /-- What it is counted in. -/
  count : Count
  /-- How many of them there are. -/
  size : Nat
  deriving DecidableEq, Repr

/-- A unit that a duration text may name. -/
structure TimeUnit where
  /-- The spellings of the unit. -/
  names : List String
  /-- What a whole unit is worth. -/
  whole : Worth
  /-- What it is worth where a part of it is taken, if it can be divided. -/
  divided : Option Worth

/-- The unit that cannot be divided. -/
def TimeUnit.least (names : List String) : TimeUnit := ⟨names, ⟨.nanoseconds, 1⟩, none⟩

/-- A unit below the second. -/
def TimeUnit.below (names : List String) (size : Nat) : TimeUnit :=
  ⟨names, ⟨.nanoseconds, size⟩, some ⟨.nanoseconds, size⟩⟩

/-- A unit from the second on that is divided down to the nanosecond. -/
def TimeUnit.fine (names : List String) (size : Nat) : TimeUnit :=
  ⟨names, ⟨.seconds, size⟩, some ⟨.nanoseconds, size * second⟩⟩

/-- A unit from the second on that is divided down to the second. -/
def TimeUnit.coarse (names : List String) (size : Nat) : TimeUnit :=
  ⟨names, ⟨.seconds, size⟩, some ⟨.seconds, size⟩⟩

/-- The seconds in a month: 30.44 days. -/
def monthSeconds : Nat := 2630016

/-- The seconds in a year: 365.25 days. -/
def yearSeconds : Nat := 31557600

/-- Every unit that a duration text may name. -/
def units : List TimeUnit :=
  [ .least ["nanos", "nsec", "ns"],
    .below ["usec", "us", "µs"] 1000,
    .below ["millis", "msec", "ms"] 1000000,
    .fine ["seconds", "second", "secs", "sec", "s"] 1,
    .fine ["minutes", "minute", "min", "mins", "m"] 60,
    .coarse ["hours", "hour", "hrs", "hr", "h"] 3600,
    .coarse ["days", "day", "d"] 86400,
    .coarse ["weeks", "week", "wk", "wks", "w"] 604800,
    .coarse ["months", "month", "M"] monthSeconds,
    .coarse ["years", "year", "yr", "yrs", "y"] yearSeconds ]

/-- The unit of the given spelling. -/
def unit? (name : Text) : Option TimeUnit :=
  units.find? fun u => u.names.any fun n => n.toList == name

/-! ## Reading -/

/-- One amount of a duration text: digits, digits behind a point if there is one, and a unit. -/
structure Amount where
  /-- The digits before the point. -/
  whole : Text
  /-- The digits behind the point. -/
  fraction : Option Text
  /-- The spelling of the unit. -/
  unit : Text
  deriving DecidableEq, Repr

/-- Reads digits, among which blanks may stand. Blanks behind the last digit are read as well. -/
def readDigits : Text → Text × Text
  | [] => ([], [])
  | c :: rest =>
    if c.isDigit then (c :: (readDigits rest).1, (readDigits rest).2)
    else if isBlank c then readDigits rest
    else ([], c :: rest)

/-- Reads the digits behind a point, at least one, if there is a point. -/
def readFraction : Text → Option (Option Text × Text)
  | '.' :: rest =>
    match readDigits rest with
    | ([], _) => none
    | (digits, rest) => some (some digits, rest)
  | t => some (none, t)

/-- The letters that spell units. -/
def isUnitLetter (c : Char) : Bool := c.isAlpha || c == 'µ'

/-- Reads one amount. It has to start with a digit, and its unit has to end where the text ends,
before a blank or before a digit. -/
def readAmount : Text → Option (Amount × Text)
  | [] => none
  | c :: rest =>
    if c.isDigit then do
      let (whole, rest) := readDigits (c :: rest)
      let (fraction, rest) ← readFraction rest
      let amount : Amount := ⟨whole, fraction, rest.takeWhile isUnitLetter⟩
      match rest.dropWhile isUnitLetter with
      | [] => some (amount, [])
      | d :: rest => if isBlank d || d.isDigit then some (amount, d :: rest) else none
    else none

/-- Reads amounts up to the end of the text, with blanks around them; at most `fuel` of them. -/
def readAmounts : Nat → Text → Option (List Amount)
  | fuel, t =>
    match Text.trimStart t with
    | [] => some []
    | c :: rest =>
      match fuel with
      | 0 => none
      | fuel + 1 => do
        let (amount, rest) ← readAmount (c :: rest)
        return amount :: (← readAmounts fuel rest)

/-- The sum of a duration and a number of nanoseconds or seconds, within 64 bits of each. -/
def add? (d : Duration) (count : Count) (n : Nat) : Option Duration :=
  let sum : Duration :=
    match count with
    | .nanoseconds => { nanos := d.nanos + n }
    | .seconds => { nanos := d.nanos + n * second }
  let counted :=
    match count with
    | .nanoseconds => d.subsecond + n
    | .seconds => n
  if counted < wordBound ∧ sum.seconds < wordBound then some sum else none

/-- The number that digits write, within 64 bits. -/
def word? (digits : Text) : Option Nat :=
  if natOfDigits digits < wordBound then some (natOfDigits digits) else none

/-- A number of units, each of the given size, within 64 bits. -/
def scaled? (n size : Nat) : Option Nat :=
  if n * size < wordBound then some (n * size) else none

/-- The part of a worth that digits behind a decimal point write, if it is a whole number. There are
at most 19 digits, so that the power of ten they are a part of stays within 64 bits. -/
def fractionOf? (digits : Text) (size : Nat) : Option Nat := do
  let power := tenTo digits.length
  if power < wordBound then
    let n ← scaled? (natOfDigits digits) size
    if n % power = 0 then some (n / power) else none
  else none

/-- The sum of a duration and an amount: the whole units are added first, and then the fraction. -/
def addAmount? (d : Duration) (amount : Amount) : Option Duration := do
  let unit ← unit? amount.unit
  let d ← d.add? unit.whole.count (← scaled? (← word? amount.whole) unit.whole.size)
  match amount.fraction with
  | none => return d
  | some digits =>
    let worth ← unit.divided
    d.add? worth.count (← fractionOf? digits worth.size)

/-- The sum of amounts, added from left to right. -/
def sum? (amounts : List Amount) : Option Duration :=
  amounts.foldlM addAmount? { nanos := 0 }

/-- The duration that a text writes; the text lists at least one amount. -/
def parse? (t : Text) : Option Duration :=
  match readAmounts t.length t with
  | none | some [] => none
  | some amounts => sum? amounts

/-! ## Writing -/

/-- A number and the unit it counts, unless the number is zero. -/
def part (n : Nat) (unit : String) : List Text :=
  if n = 0 then [] else [natText n ++ unit.toList]

/-- A number and the unit it counts, which takes an `s` unless the number is one. -/
def pluralPart (n : Nat) (unit : String) : List Text :=
  part n (if n = 1 then unit else unit ++ "s")

/-- The amounts of a duration, the largest unit first. -/
def parts (d : Duration) : List Text :=
  let inYear := d.seconds % yearSeconds
  let inMonth := inYear % monthSeconds
  let inDay := inMonth % 86400
  pluralPart (d.seconds / yearSeconds) "year" ++
  pluralPart (inYear / monthSeconds) "month" ++
  pluralPart (inMonth / 86400) "day" ++
  part (inDay / 3600) "h" ++
  part (inDay % 3600 / 60) "m" ++
  part (inDay % 60) "s" ++
  part (d.subsecond / 1000000) "ms" ++
  part (d.subsecond / 1000 % 1000) "us" ++
  part (d.subsecond % 1000) "ns"

/-- The text of a duration. -/
def text (d : Duration) : Text :=
  match d.parts with
  | [] => "0s".toList
  | parts => [' '].intercalate parts

/-- The digits of `n` behind a decimal point, out of so many places, without the zeros at the end;
nothing when no digit is left. -/
def fractionDigits (places n : Nat) : Text :=
  let digits := natText n
  let padded := List.replicate (places - digits.length) '0' ++ digits
  match (padded.reverse.dropWhile (· == '0')).reverse with
  | [] => []
  | digits => '.' :: digits

/-- The duration as a decimal number of its largest unit that is not above it: seconds,
milliseconds, microseconds, nanoseconds. -/
def brief (d : Duration) : Text :=
  if d.seconds > 0 then
    natText d.seconds ++ fractionDigits 9 d.subsecond ++ "s".toList
  else if d.nanos ≥ 1000000 then
    natText (d.nanos / 1000000) ++ fractionDigits 6 (d.nanos % 1000000) ++ "ms".toList
  else if d.nanos ≥ 1000 then
    natText (d.nanos / 1000) ++ fractionDigits 3 (d.nanos % 1000) ++ "µs".toList
  else natText d.nanos ++ "ns".toList

end Duration

end ExprGate
