import ExprGate.Powers
import ExprGate.Text.Basic

/-!
# Decimal text of doubles

The text of a double is the shortest decimal that reads back as it: of all decimal grids, the
coarsest one with a point in the interval of reals that round to the double, and on that grid the
point nearest to it. Everything is computed in exact integer arithmetic on the significand and the
exponent.
-/

namespace ExprGate

/-- The positive number `digits · 10 ^ exponent`. -/
structure Decimal where
  /-- The significant digits, read as a natural number. -/
  digits : Nat
  /-- The power of ten. -/
  exponent : Int
  deriving DecidableEq, Repr

/-- A positive double, `significand · 2 ^ exponent`, with the knowledge whether the next double
below is nearer than the next one above. -/
structure Binary where
  /-- The significand, of at most 53 bits. -/
  significand : Nat
  /-- The power of two. -/
  exponent : Int
  /-- Whether the gap below is half the gap above. -/
  narrowBelow : Bool
  deriving DecidableEq, Repr

namespace Binary

/-- The positive double with the given bits; the sign bit is ignored. -/
def ofBits (bits : UInt64) : Binary :=
  let n : Nat := bits.toNat % twoTo 63
  let fraction : Nat := n % twoTo 52
  let biased : Nat := n / twoTo 52
  if biased = 0 then ⟨fraction, -1074, false⟩
  else ⟨fraction + twoTo 52, (biased : Int) - 1075, fraction == 0 && biased != 1⟩

/-- The point of the grid of multiples of `10 ^ k` that lies in the interval of the double and
nearest to it, if there is one. Of two points equally near, the even one is taken. -/
def onGrid (b : Binary) (k : Int) : Option Nat :=
  let shift := b.exponent - 2
  let scale := twoTo shift.toNat * tenTo (-k).toNat
  let unit := twoTo (-shift).toNat * tenTo k.toNat
  let value := 4 * b.significand * scale
  let low := (4 * b.significand - if b.narrowBelow then 1 else 2) * scale
  let high := (4 * b.significand + 2) * scale
  let inside (c : Nat) : Bool :=
    if b.significand % 2 = 0 then low ≤ c * unit && c * unit ≤ high
    else low < c * unit && c * unit < high
  let below := value / unit
  let above := below + 1
  match inside below, inside above with
  | false, false => none
  | true, false => some below
  | false, true => some above
  | true, true =>
    let gapBelow := value - below * unit
    let gapAbove := above * unit - value
    if gapBelow < gapAbove then some below
    else if gapAbove < gapBelow then some above
    else if below % 2 = 0 then some below else some above

/-- The first grid that has a point in the interval, going from `10 ^ k` to finer ones. -/
def shortestFrom (b : Binary) : Nat → Int → Decimal
  | 0, k => ⟨0, k⟩
  | fuel + 1, k =>
    match b.onGrid k with
    | some digits => ⟨digits, k⟩
    | none => b.shortestFrom fuel (k - 1)

/-- The shortest decimal that reads back as the double. The grids run from multiples of `10 ^ 309`,
beyond every double, to multiples of `10 ^ (-324)`, which are denser than the doubles. -/
def shortest (b : Binary) : Decimal := b.shortestFrom 634 309

end Binary

/-- Writes a decimal: positionally, and with at least one digit after the point, for numbers from
`10 ^ (-5)` up to but excluding `10 ^ 16`; otherwise with one digit before the point and a signed
exponent. -/
def Decimal.text (d : Decimal) : Text :=
  let digits := natText d.digits
  let point : Int := digits.length + d.exponent
  if -5 < point ∧ point ≤ 16 then
    if 0 ≤ d.exponent then digits ++ List.replicate d.exponent.toNat '0' ++ ['.', '0']
    else if 0 < point then
      digits.take point.toNat ++ '.' :: digits.drop point.toNat
    else '0' :: '.' :: List.replicate (-point).toNat '0' ++ digits
  else
    let power := point - 1
    let mantissa :=
      match digits with
      | first :: second :: rest => first :: '.' :: second :: rest
      | short => short
    mantissa ++ 'e' :: (if power < 0 then '-' else '+') :: natText power.natAbs

/-- The text of a finite double. -/
def doubleText (x : Float) : Text :=
  let bits := x.toBits
  let sign : Text := if bits.toNat < twoTo 63 then [] else ['-']
  let b := Binary.ofBits bits
  sign ++ if b.significand = 0 then "0.0".toList else b.shortest.text

end ExprGate
