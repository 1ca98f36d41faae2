/-!
# MemMap.Decimal.Binary64

Binary floating-point numbers of 64 bits as exact values: a sign, a mantissa below `2 ^ 53`
and a power of two. A number is made from a decimal by rounding the exact quotient to the
nearest representable value, ties going to the even mantissa.
-/

namespace MemMap.Decimal

/-! ## Rounding a quotient -/

/-- `num / den` rounded to the nearest natural number, a half going to the even one. -/
def divNearestEven (num den : Nat) : Nat :=
  let q := num / den
  let r := num % den
  if 2 * r < den then q
  else if den < 2 * r then q + 1
  else if q % 2 = 0 then q
  else q + 1

/-! ## Numbers -/

/-- A 64-bit binary floating-point number. A finite one is `mantissa * 2 ^ exponent`, with a
mantissa of 53 bits unless the exponent is the least one. -/
inductive Binary64 where
  | nan
  | infinity (negative : Bool)
  | finite (negative : Bool) (mantissa : Nat) (exponent : Int)
  deriving DecidableEq, Repr

namespace Binary64

/-- Mantissas are smaller than this. -/
def mantissaBound : Nat := Nat.pow 2 53

/-- The exponent of the smallest numbers. -/
def minExponent : Int := -1074

/-- The exponent of the largest numbers. -/
def maxExponent : Int := 971

/-- The zero of that sign. -/
def zero (negative : Bool) : Binary64 := .finite negative 0 minExponent

/-- Whether the number is neither infinite nor an error value. -/
def isFinite : Binary64 → Bool
  | .finite .. => true
  | _ => false

/-- Whether the number is one of the two zeros. -/
def isZero : Binary64 → Bool
  | .finite _ 0 _ => true
  | _ => false

/-- The two numbers count as the same value: zeros agree whatever their sign, and the error
value agrees with itself. -/
def same (a b : Binary64) : Bool :=
  (a.isZero && b.isZero) || a = b

/-- `num / den` times `2 ^ -exponent`, rounded. -/
def scaledMantissa (num den : Nat) (exponent : Int) : Nat :=
  divNearestEven (num * Nat.pow 2 (-exponent).toNat) (den * Nat.pow 2 exponent.toNat)

/-- The number nearest to the quotient of two positive naturals. -/
def ofQuotient (negative : Bool) (num den : Nat) : Binary64 :=
  let bits : Int := (Nat.log2 num : Int) - (Nat.log2 den : Int)
  let low := max (bits - 53) minExponent
  let floor := num * Nat.pow 2 (-low).toNat / (den * Nat.pow 2 low.toNat)
  let exponent := if mantissaBound ≤ floor then low + 1 else low
  let mantissa := scaledMantissa num den exponent
  let (mantissa, exponent) :=
    if mantissa = mantissaBound then (mantissa / 2, exponent + 1) else (mantissa, exponent)
  if maxExponent < exponent then .infinity negative
  else .finite negative mantissa exponent

/-- Beyond this decimal magnitude every number is infinite. -/
def decimalOverflow : Int := 310

/-- Below this decimal magnitude every number is zero. -/
def decimalUnderflow : Int := -330

/-- The number nearest to `digits * 10 ^ exponent`, which has `places` decimal digits.
Magnitudes far outside the range are settled before any power is taken. -/
def ofDecimal (negative : Bool) (digits places : Nat) (exponent : Int) : Binary64 :=
  if digits = 0 then zero negative
  else if decimalOverflow < places + exponent then .infinity negative
  else if places + exponent < decimalUnderflow then zero negative
  else ofQuotient negative (digits * Nat.pow 10 exponent.toNat) (Nat.pow 10 (-exponent).toNat)

end Binary64

end MemMap.Decimal
