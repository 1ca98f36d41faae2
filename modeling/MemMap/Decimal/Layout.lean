import MemMap.Decimal.Shortest

/-!
# MemMap.Decimal.Layout

How a floating-point number is written: positionally, always with a point, while the point
stays near the digits, and with an exponent otherwise.
-/

namespace MemMap.Decimal

/-- Where positional notation ends, and how exponents and the special values are spelled. -/
structure Layout where
  /-- The point of a positional number lies right of this. -/
  leastPoint : Int
  /-- The point of a positional number lies at most here. -/
  greatestPoint : Int
  /-- Whether an exponent above zero gets a sign. -/
  plusSign : Bool
  nan : String
  infinity : String

namespace Layout

/-- Whether a number with its point there is written positionally. -/
def isPositional (layout : Layout) (point : Int) : Bool :=
  layout.leastPoint < point && point ≤ layout.greatestPoint

/-- An exponent of ten. -/
def exponentText (layout : Layout) (exponent : Int) : List Char :=
  (if layout.plusSign && 0 < exponent then ['+'] else []) ++ (toString exponent).toList

end Layout

namespace Digits

/-- The digits around their point, which never stands at an end. -/
def positional (d : Digits) : List Char :=
  let p := d.point.toNat
  if d.point ≤ 0 then
    ['0', '.'] ++ List.replicate (-d.point).toNat '0' ++ d.digits
  else if p < d.digits.length then
    d.digits.take p ++ '.' :: d.digits.drop p
  else
    d.digits ++ List.replicate (p - d.digits.length) '0' ++ ['.', '0']

/-- The digits with a point behind the first, if there are more, and the exponent. -/
def scientific (d : Digits) (layout : Layout) : List Char :=
  let fraction := if d.digits.length ≤ 1 then [] else '.' :: d.digits.drop 1
  d.digits.take 1 ++ fraction ++ 'e' :: layout.exponentText (d.point - 1)

end Digits

/-- The text of a number: the fewest digits that identify it, laid out as `layout`
says. -/
def Binary64.text (layout : Layout) : Binary64 → String
  | .nan => layout.nan
  | .infinity negative => (if negative then "-" else "") ++ layout.infinity
  | .finite negative mantissa exponent =>
    let magnitude :=
      if mantissa = 0 then ['0', '.', '0']
      else
        let d := shortest mantissa exponent
        if layout.isPositional d.point then d.positional else d.scientific layout
    (if negative then "-" else "") ++ String.ofList magnitude

end MemMap.Decimal
