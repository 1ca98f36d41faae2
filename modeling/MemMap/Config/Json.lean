import MemMap.Config
import MemMap.Decimal.Layout
import MemMap.Text.Escaped

/-!
# MemMap.Config.Json

Configurations as JSON values: an object with one member for each field, or an array of the
fields in their order. Further members are ignored.

Members are judged in the order of their names, whatever their order in the object; only
then are missing ones looked for, in the order of the fields.
-/

namespace MemMap

open Decimal Text

/-! ## JSON values -/

/-- A JSON value. Numbers are integers or floats by how they are written. -/
inductive Json where
  | null
  | bool (b : Bool)
  | int (n : Int)
  | float (x : Binary64)
  | string (s : String)
  | array (items : List Json)
  | object (members : List (String × Json))
  deriving Inhabited, Repr

namespace Json

/-- The member of that name. -/
def member? (members : List (String × Json)) (name : String) : Option Json :=
  List.lookup name members

/-- Floats are written positionally from 0.00001 to below 10^16; an exponent above zero gets a
sign. -/
def floatLayout : Layout where
  leastPoint := -5
  greatestPoint := 16
  plusSign := true
  nan := "NaN"
  infinity := "inf"

/-- What a value is, for diagnostics. -/
def kindText : Json → String
  | .null => "null"
  | .bool b => "boolean \x60" ++ (if b then "true" else "false") ++ "\x60"
  | .int n => "integer \x60" ++ toString n ++ "\x60"
  | .float x => "floating point \x60" ++ x.text floatLayout ++ "\x60"
  | .string s => "string " ++ quoted s
  | .array _ => "sequence"
  | .object _ => "map"

end Json

namespace Config

/-! ## Faults -/

/-- The fields of a configuration. -/
inductive Key where
  | outputDir
  | rustFileName
  | cFileName
  | nestedSizing
  deriving DecidableEq, Repr

/-- The name of a field in a written configuration. -/
def Key.name : Key → String
  | outputDir => "output_dir"
  | rustFileName => "rust_file_name"
  | cFileName => "c_file_name"
  | nestedSizing => "nested_sizing"

/-- What a place in a configuration asks for. -/
inductive Wanted where
  | configuration
  | path
  | fileName
  | policy
  /-- The null that goes with a policy's name. -/
  | nothing
  deriving DecidableEq, Repr

/-- How a wanted value is told. -/
def Wanted.text : Wanted → String
  | configuration => "struct GeneratorConfig"
  | path => "path string"
  | fileName => "a string"
  | policy => "string or map"
  | nothing => "unit"

/-- Why a JSON value is no configuration. -/
inductive JsonFault where
  | missing (key : Key)
  | wrongKind (got : Json) (wanted : Wanted)
  | unknownPolicy (name : String)
  /-- An object in place of a policy that does not have exactly one member. -/
  | notOneMember
  | tooShort (length : Nat)
  | tooLong (length : Nat)

/-- The account of a fault. -/
def JsonFault.message : JsonFault → String
  | .missing key => "missing field \x60" ++ key.name ++ "\x60"
  | .wrongKind got wanted =>
    "invalid type: " ++ got.kindText ++ ", expected " ++ wanted.text
  | .unknownPolicy name =>
    "unknown variant \x60" ++ name ++ "\x60, expected \x60" ++ NestedSizing.resolve.name
      ++ "\x60 or \x60" ++ NestedSizing.skip.name ++ "\x60"
  | .notOneMember => "invalid value: map, expected map with a single key"
  | .tooShort length =>
    "invalid length " ++ toString length ++ ", expected " ++ Wanted.configuration.text
      ++ " with 4 elements"
  | .tooLong length =>
    "invalid length " ++ toString length ++ ", expected fewer elements in array"

/-! ## Reading -/

/-- A string for a place that wants one. -/
def stringOfJson (wanted : Wanted) : Json → Except JsonFault String
  | .string s => .ok s
  | v => .error (.wrongKind v wanted)

/-- The policy of that name. -/
def policyOfName (name : String) : Except JsonFault NestedSizing :=
  match NestedSizing.ofName? name with
  | some p => .ok p
  | none => .error (.unknownPolicy name)

/-- A policy: its name, or an object that gives its name a null. -/
def policyOfJson : Json → Except JsonFault NestedSizing
  | .string name => policyOfName name
  | .object [(name, v)] => do
    let p ← policyOfName name
    match v with
    | .null => return p
    | v => throw (.wrongKind v .nothing)
  | .object _ => .error .notOneMember
  | v => .error (.wrongKind v .policy)

/-- A member, if it is there, read by `read`. -/
def optional {α : Type} (read : Json → Except JsonFault α) :
    Option Json → Except JsonFault (Option α)
  | some v => do return some (← read v)
  | none => .ok none

/-- A member that must be there. -/
def required {α : Type} (key : Key) : Option α → Except JsonFault α
  | some a => .ok a
  | none => .error (.missing key)

/-- The configuration in the members of an object. -/
def ofMembers (members : List (String × Json)) : Except JsonFault Config := do
  let get (key : Key) := Json.member? members key.name
  let cFileName ← optional (stringOfJson .fileName) (get .cFileName)
  let nestedSizing ← optional policyOfJson (get .nestedSizing)
  let outputDir ← optional (stringOfJson .path) (get .outputDir)
  let rustFileName ← optional (stringOfJson .fileName) (get .rustFileName)
  let outputDir ← required .outputDir outputDir
  let rustFileName ← required .rustFileName rustFileName
  let cFileName ← required .cFileName cFileName
  let nestedSizing ← required .nestedSizing nestedSizing
  return ⟨outputDir, rustFileName, cFileName, nestedSizing⟩

/-- The next item of an array of `length` items. -/
def nextItem (length : Nat) : List Json → Except JsonFault (Json × List Json)
  | v :: rest => .ok (v, rest)
  | [] => .error (.tooShort length)

/-- The configuration in the items of an array. -/
def ofItems (items : List Json) : Except JsonFault Config := do
  let (v, rest) ← nextItem items.length items
  let outputDir ← stringOfJson .path v
  let (v, rest) ← nextItem items.length rest
  let rustFileName ← stringOfJson .fileName v
  let (v, rest) ← nextItem items.length rest
  let cFileName ← stringOfJson .fileName v
  let (v, rest) ← nextItem items.length rest
  let nestedSizing ← policyOfJson v
  if rest.isEmpty then return ⟨outputDir, rustFileName, cFileName, nestedSizing⟩
  else throw (.tooLong items.length)

/-- The configuration that a JSON value holds. -/
def ofJson : Json → Except JsonFault Config
  | .object members => ofMembers members
  | .array items => ofItems items
  | v => .error (.wrongKind v .configuration)

end Config

end MemMap
