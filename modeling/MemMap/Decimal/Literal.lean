import MemMap.Decimal.Binary64

/-!
# MemMap.Decimal.Literal

Reading numbers: digits in a base, and decimals with an optional fraction and exponent.
-/

namespace MemMap.Decimal

/-- The value of a digit in some base up to sixteen. -/
def digitIn? (base : Nat) (c : Char) : Option Nat :=
  let n := c.toNat
  let value :=
    if 48 ≤ n && n ≤ 57 then n - 48
    else if 65 ≤ n && n ≤ 70 then n - 55
    else if 97 ≤ n && n ≤ 102 then n - 87
    else base
  if value < base then some value else none

/-- Digits of a base behind a number already read. -/
def natFrom? (base : Nat) : List Char → Nat → Option Nat
  | [], met => some met
  | c :: r, met =>
    match digitIn? base c with
    | some d => natFrom? base r (met * base + d)
    | none => none

/-- The number that these digits spell; there must be one at least. -/
def nat? (base : Nat) (cs : List Char) : Option Nat :=
  if cs.isEmpty then none else natFrom? base cs 0

/-- The exponent behind a decimal's digits, zero if there is none. -/
def exponent? : List Char → Option Int
  | [] => some 0
  | c :: r =>
    if c = 'e' || c = 'E' then
      match r with
      | '-' :: ds => (nat? 10 ds).map fun n => -(n : Int)
      | '+' :: ds => (nat? 10 ds).map fun n => (n : Int)
      | ds => (nat? 10 ds).map fun n => (n : Int)
    else none

/-- The number nearest to an unsigned decimal: digits, among them at most one point, then
perhaps an exponent. -/
def unsigned? (negative : Bool) (cs : List Char) : Option Binary64 :=
  let whole := cs.takeWhile Char.isDigit
  let rest := cs.drop whole.length
  let fraction :=
    match rest with
    | '.' :: r => r.takeWhile Char.isDigit
    | _ => []
  let rest :=
    match rest with
    | '.' :: r => r.drop fraction.length
    | r => r
  match nat? 10 (whole ++ fraction), exponent? rest with
  | some digits, some exponent =>
    some (.ofDecimal negative digits (Nat.toDigits 10 digits).length
      (exponent - fraction.length))
  | _, _ => none

/-- The number nearest to a decimal with an optional sign. -/
def decimal? : List Char → Option Binary64
  | '-' :: r => unsigned? true r
  | '+' :: r => unsigned? false r
  | r => unsigned? false r

end MemMap.Decimal
