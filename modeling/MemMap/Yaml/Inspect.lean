import MemMap.Text.Escaped
import MemMap.Yaml.Value

/-!
# MemMap.Yaml.Inspect

The form in which diagnostics show a value: every value under the name of its kind, with
strings quoted and escaped. The keys of a mapping are shown more briefly, without the name
of their kind where that is plain.
-/

namespace MemMap.Yaml

open MemMap.Text

/-- The word for a truth value. -/
def boolText (b : Bool) : String :=
  if b then "true" else "false"

namespace Value

/-- A key that is shown without the name of its kind. -/
def briefKey? : Value → Option String
  | .bool b => some (boolText b)
  | .number n => some n.text
  | .string s => some (quoted s)
  | _ => none

mutual

/-- The value with the names of all kinds. -/
def inspect : Value → String
  | .null => "Null"
  | .bool b => "Bool(" ++ boolText b ++ ")"
  | .number n => "Number(" ++ n.text ++ ")"
  | .string s => "String(" ++ quoted s ++ ")"
  | .sequence items => "Sequence [" ++ String.intercalate ", " (inspectItems items) ++ "]"
  | .mapping entries =>
    "Mapping \x7b" ++ String.intercalate ", " (inspectEntries entries) ++ "\x7d"
  | .tagged tag v =>
    "TaggedValue \x7b tag: !" ++ Tag.bareName tag ++ ", value: " ++ inspect v ++ " \x7d"

/-- The items of a sequence. -/
def inspectItems : List Value → List String
  | [] => []
  | v :: rest => inspect v :: inspectItems rest

/-- The entries of a mapping. -/
def inspectEntries : List (Value × Value) → List String
  | [] => []
  | (k, v) :: rest =>
    ((briefKey? k).getD (inspect k) ++ ": " ++ inspect v) :: inspectEntries rest

end

end Value

end MemMap.Yaml
