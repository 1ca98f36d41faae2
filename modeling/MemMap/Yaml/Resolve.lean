import MemMap.Decimal.Literal
import MemMap.Yaml.Value

/-!
# MemMap.Yaml.Resolve

What scalars stand for. A scalar without quotes is a null, a boolean or a number if it is
spelled like one, and a string otherwise; in quotes it is a string. A tag of the common
schema demands its own kind, quotes or not.

A number with a zero in front of its digits is a string. An integer too wide for 64 bits is
refused as long as 128 bits hold it, and beyond that is read as a float if it is decimal.
-/

namespace MemMap.Yaml

open MemMap.Decimal

/-! ## Words -/

/-- Whether the word spells null; the empty word is none. -/
def isNullWord (s : String) : Bool :=
  s = "null" || s = "Null" || s = "NULL" || s = "~"

/-- The truth value that the word spells. -/
def boolWord? (s : String) : Option Bool :=
  if s = "true" || s = "True" || s = "TRUE" then some true
  else if s = "false" || s = "False" || s = "FALSE" then some false
  else none

/-! ## Integers -/

/-- Without its sign, if it has one. -/
def withoutSign : List Char → List Char
  | '+' :: r => r
  | '-' :: r => r
  | r => r

/-- Digits that begin with a needless zero spell no number. -/
def isZeroPadded (cs : List Char) : Bool :=
  match withoutSign cs with
  | '0' :: c :: r => (c :: r).all Char.isDigit
  | _ => false

/-- A number without sign: hexadecimal, octal, binary or decimal. -/
def magnitude? (cs : List Char) : Option Nat :=
  match cs with
  | '0' :: 'x' :: r => nat? 16 r
  | '0' :: 'o' :: r => nat? 8 r
  | '0' :: 'b' :: r => nat? 2 r
  | _ => if isZeroPadded cs then none else nat? 10 cs

/-- The integer of any size that is spelled. -/
def integer? : List Char → Option Int
  | '+' :: r => (magnitude? r).map fun n => (n : Int)
  | '-' :: r => (magnitude? r).map fun n => -(n : Int)
  | r => (magnitude? r).map fun n => (n : Int)

/-- The integers that are recognised as such, if only to be refused. -/
def isWideInt (n : Int) : Bool :=
  -Int.pow 2 127 ≤ n && n < Int.pow 2 128

/-- Reads an integer: `none` if none is spelled, a fault if it is too wide. -/
def int? (s : String) : Except Fault (Option Int) :=
  match integer? s.toList with
  | some n =>
    if Number.minInt ≤ n && n ≤ Number.maxInt then .ok (some n)
    else if isWideInt n then .error .integerTooWide
    else .ok none
  | none => .ok none

/-! ## Floats -/

/-- Whether the word spells infinity. -/
def isInfinityWord (s : String) : Bool :=
  s = ".inf" || s = ".Inf" || s = ".INF"

/-- The floating-point number that is spelled. Digits must not spell an infinite one. -/
def float? (s : String) : Option Binary64 :=
  match s.toList with
  | '+' :: r =>
    if isInfinityWord (String.ofList r) then some (.infinity false)
    else if withoutSign r = r then (decimal? r).filter (·.isFinite)
    else none
  | r =>
    if isInfinityWord s then some (.infinity false)
    else if r.head? = some '-' && isInfinityWord (String.ofList (r.drop 1)) then
      some (.infinity true)
    else if s = ".nan" || s = ".NaN" || s = ".NAN" then some .nan
    else (decimal? r).filter (·.isFinite)

/-! ## Scalars -/

/-- What a scalar without quotes stands for. -/
def plainValue (s : String) : Except Fault Value := do
  if s = "" || isNullWord s then
    return .null
  match boolWord? s with
  | some b => return .bool b
  | none =>
    match ← int? s with
    | some n => return .number (.int n)
    | none =>
      if isZeroPadded s.toList then
        return .string s
      match float? s with
      | some x => return .number (.float x)
      | none => return .string s

/-- What a scalar stands for by its style alone. -/
def styledValue (s : String) (plain : Bool) : Except Fault Value :=
  if plain then plainValue s else .ok (.string s)

/-- What a scalar stands for under a tag that is not the application's own. -/
def scalarValue (tag : Option Tag) (s : String) (plain : Bool) : Except Fault Value :=
  match tag with
  | none | some (.own _) | some .unreadable => styledValue s plain
  | some .other => .ok (.string s)
  | some .bool =>
    match boolWord? s with
    | some b => .ok (.bool b)
    | none => .error .scalarAgainstTag
  | some .int => do
    match ← int? s with
    | some n => return .number (.int n)
    | none => throw .scalarAgainstTag
  | some .float =>
    match float? s with
    | some x => .ok (.number (.float x))
    | none => .error .scalarAgainstTag
  | some .null => if isNullWord s then .ok .null else .error .scalarAgainstTag

end MemMap.Yaml
