import MemMap.Decimal.Layout
import MemMap.Yaml.Node

/-!
# MemMap.Yaml.Value

The values that YAML documents stand for.

Two values are the same if their constructors and contents are; mappings are compared
without order, zeros of either sign agree, and an integer is never the same as a float.
No mapping of a document has the same key twice.
-/

namespace MemMap.Yaml

open MemMap.Decimal

/-! ## Numbers -/

/-- An integer of at most 64 bits, or a floating-point number. -/
inductive Number where
  | int (n : Int)
  | float (x : Binary64)
  deriving DecidableEq, Repr

namespace Number

/-- The least integer. -/
def minInt : Int := -Int.pow 2 63

/-- The greatest integer. -/
def maxInt : Int := Int.pow 2 64 - 1

/-- Whether two numbers are the same value of the same kind. -/
def same : Number → Number → Bool
  | .int a, .int b => a = b
  | .float a, .float b => a.same b
  | _, _ => false

/-- Floats are written positionally from `0.00001` to sixteen digits. -/
def floatLayout : Layout where
  leastPoint := -5
  greatestPoint := 16
  plusSign := false
  nan := ".nan"
  infinity := ".inf"

/-- The text of a number. -/
def text : Number → String
  | .int n => toString n
  | .float x => x.text floatLayout

end Number

/-! ## Values -/

/-- A YAML value. -/
inductive Value where
  | null
  | bool (b : Bool)
  | number (n : Number)
  | string (s : String)
  | sequence (items : List Value)
  | mapping (entries : List (Value × Value))
  /-- A value under a tag of the application's own. -/
  | tagged (tag : String) (value : Value)
  deriving Repr

namespace Value

/-- The string that a value is, seen through any tags. -/
def text? : Value → Option String
  | .string s => some s
  | .tagged _ v => v.text?
  | _ => none

/-- Whether the value is that string, without a tag. -/
def isString (v : Value) (s : String) : Bool :=
  match v with
  | .string t => t = s
  | _ => false

/-- The value under an untagged string key. -/
def attribute? (entries : List (Value × Value)) (key : String) : Option Value :=
  (entries.find? fun e => e.1.isString key).map (·.2)

mutual

/-- Whether two values are the same. -/
def same : Value → Value → Bool
  | .null, .null => true
  | .bool a, .bool b => a = b
  | .number a, .number b => a.same b
  | .string a, .string b => a = b
  | .sequence a, .sequence b => sameItems a b
  | .mapping a, .mapping b => a.length = b.length && sameEntries a b
  | .tagged s a, .tagged t b => Tag.bareName s = Tag.bareName t && a.same b
  | _, _ => false

/-- Whether two sequences have the same items in the same order. -/
def sameItems : List Value → List Value → Bool
  | [], [] => true
  | a :: as, b :: bs => a.same b && sameItems as bs
  | _, _ => false

/-- Whether every entry of the first mapping is one of the second. -/
def sameEntries : List (Value × Value) → List (Value × Value) → Bool
  | [], _ => true
  | (k, v) :: rest, entries =>
    entries.any (fun e => k.same e.1 && v.same e.2) && sameEntries rest entries

end

end Value

end MemMap.Yaml
