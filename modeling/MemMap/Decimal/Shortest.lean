import MemMap.Decimal.Binary64

/-!
# MemMap.Decimal.Shortest

The fewest decimal digits that identify a binary floating-point number.

All decimals in an interval around a number read back to it. For one digit, two digits and
so on, the two neighbours of the number on that decimal grid are tried against the
interval; the first grid with a hit gives the answer, and of two hits the nearer one.
-/

namespace MemMap.Decimal

/-- A positive decimal `0.d₁d₂… * 10 ^ point` with `digits` written out, no zero at its end. -/
structure Digits where
  digits : List Char
  point : Int
  deriving DecidableEq, Repr

/-- The interval of reals that round to a number, all three over one denominator. -/
structure Interval where
  low : Nat
  value : Nat
  high : Nat
  denominator : Nat
  /-- Whether the ends belong to it. -/
  closed : Bool

namespace Interval

/-- The decimals that read back to `mantissa * 2 ^ exponent`, in quarters of its last place.
Below a power of two the gap to the next smaller number is half as wide. -/
def ofBinary (mantissa : Nat) (exponent : Int) : Interval :=
  let narrow := mantissa = Binary64.mantissaBound / 2 ∧ Binary64.minExponent < exponent
  let unit := Nat.pow 2 (exponent - 2).toNat
  { low := (4 * mantissa - if narrow then 1 else 2) * unit
    value := 4 * mantissa * unit
    high := (4 * mantissa + 2) * unit
    denominator := Nat.pow 2 (2 - exponent).toNat
    closed := mantissa % 2 = 0 }

/-- The same interval in units of `10 ^ exponent`. -/
def inUnitsOf (i : Interval) (exponent : Int) : Interval :=
  let up := Nat.pow 10 (-exponent).toNat
  { low := i.low * up
    value := i.value * up
    high := i.high * up
    denominator := i.denominator * Nat.pow 10 exponent.toNat
    closed := i.closed }

/-- Whether the whole number `n` lies in the interval. -/
def contains (i : Interval) (n : Nat) : Bool :=
  let x := n * i.denominator
  if i.closed then i.low ≤ x && x ≤ i.high else i.low < x && x < i.high

/-- The whole number next to the value that lies in the interval: the nearer of two, the
even one if both are as near. -/
def nearest? (i : Interval) : Option Nat :=
  let n := i.value / i.denominator
  let below := i.value - n * i.denominator
  let above := (n + 1) * i.denominator - i.value
  if i.contains n && n ≠ 0 then
    if i.contains (n + 1) && (above < below || (above = below && n % 2 = 1)) then some (n + 1)
    else some n
  else if i.contains (n + 1) then some (n + 1)
  else none

end Interval

/-- How many zeros follow the point in `num / den`, a quotient below one; `fuel` bounds the
search. -/
def leadingZeros (num den : Nat) : Nat → Nat
  | 0 => 0
  | fuel + 1 => if num * 10 < den then leadingZeros (num * 10) den fuel + 1 else 0

/-- More zeros than any number has after the point. -/
def maxLeadingZeros : Nat := 400

/-- The power of ten just above `num / den`. -/
def decimalPoint (num den : Nat) : Int :=
  if den ≤ num then (Nat.toDigits 10 (num / den)).length
  else -(leadingZeros num den maxLeadingZeros : Int)

/-- Every number has an identifying decimal of this many digits. -/
def maxDigits : Nat := 17

/-- The digits of `n * 10 ^ exponent`. -/
def Digits.ofNat (n : Nat) (exponent : Int) : Digits :=
  let ds := Nat.toDigits 10 n
  { digits := (ds.reverse.dropWhile (· = '0')).reverse
    point := exponent + ds.length }

/-- Try grids of `maxDigits - left + 1` digits and more; `point` is the power of ten just
above the value. -/
def shortestFrom (i : Interval) (point : Int) : Nat → Digits
  | 0 => ⟨['0'], point⟩
  | left + 1 =>
    let exponent := point - (maxDigits - left : Nat)
    match (i.inUnitsOf exponent).nearest? with
    | some n => Digits.ofNat n exponent
    | none => shortestFrom i point left

/-- The fewest digits that identify the positive number `mantissa * 2 ^ exponent`. -/
def shortest (mantissa : Nat) (exponent : Int) : Digits :=
  let i := Interval.ofBinary mantissa exponent
  shortestFrom i (decimalPoint i.value i.denominator) maxDigits

end MemMap.Decimal
