import MemMap.Schema

/-!
# MemMap.Alignment

Packed record sizes and the word-alignment check.

A record's size is the sum of its field sizes, with nothing between them. A primitive has
its width; a named type has the size of the latest earlier record of that name, if the
policy looks names up at all, and is left out of the sum otherwise. Sums stop at
`sizeCap`, the largest size a 32-bit word can hold.

A record whose size is no multiple of a word is reported. The check is a diagnosis only:
it refuses nothing.

* `measureFrom_append` — measuring a list continues where measuring its front ended;
* `Report.recordSize?` and `Report.warnings` — the two views of a finished check.
-/

namespace MemMap

/-! ## Policies and capped sums -/

/-- How a field that names another record counts towards the size. -/
inductive NestedSizing where
  /-- By the size of the latest earlier record of that name. -/
  | resolve
  /-- Not at all. -/
  | skip
  deriving DecidableEq, Repr

namespace NestedSizing

/-- Names are resolved unless the caller asks otherwise. -/
def standard : NestedSizing := .resolve

/-- The spelling of a policy in a configuration. -/
def name : NestedSizing → String
  | .resolve => "resolve"
  | .skip => "skip"

/-- The policy of that spelling. -/
def ofName? (text : String) : Option NestedSizing :=
  if text = "resolve" then some .resolve
  else if text = "skip" then some .skip
  else none

@[simp]
theorem ofName?_name (p : NestedSizing) : ofName? p.name = some p := by
  cases p <;> decide

end NestedSizing

/-- Sizes are multiples of this many bytes in an aligned record. -/
def wordSize : Nat := 4

/-- The largest size that is told apart from larger ones. -/
def sizeCap : Nat := Nat.pow 2 32 - 1

/-- Addition that stops at `sizeCap`. -/
def addCapped (a b : Nat) : Nat := min (a + b) sizeCap

/-! ## Measuring -/

/-- Sizes of the records met so far, the latest first. -/
abbrev Sizes := List (String × Nat)

/-- The size of the latest record of that name. -/
def Sizes.get? (sizes : Sizes) (name : String) : Option Nat :=
  List.lookup name sizes

/-- What a field of that type adds, or `none` if its size is not known. -/
def fieldSize? (policy : NestedSizing) (sizes : Sizes) : TypeToken → Option Nat
  | .primitive p => some p.size
  | .named name =>
    match policy with
    | .resolve => sizes.get? name
    | .skip => none

/-- The capped sum of the known field sizes, added up from the left. -/
def packedSize (policy : NestedSizing) (sizes : Sizes) (fields : List Field) : Nat :=
  fields.foldl (fun total f =>
    match fieldSize? policy sizes f.type with
    | some n => addCapped total n
    | none => total) 0

/-- One record after the check has passed it. -/
structure Measured where
  name : String
  size : Nat
  /-- Fields whose size was not known, in order. -/
  unresolved : List Field
  deriving DecidableEq, Repr

/-- Measure one record, given the sizes of the records before it. -/
def measure (policy : NestedSizing) (sizes : Sizes) (r : Record) : Measured where
  name := r.name
  size := packedSize policy sizes r.fields
  unresolved := r.fields.filter fun f => (fieldSize? policy sizes f.type).isNone

/-- Measure records in order; each one is known to those after it. -/
def measureFrom (policy : NestedSizing) : Sizes → List Record → List Measured
  | _, [] => []
  | sizes, r :: rest =>
    let m := measure policy sizes r
    m :: measureFrom policy ((m.name, m.size) :: sizes) rest

/-- The sizes known after `ms`, when `sizes` were known before. -/
def sizesAfter (sizes : Sizes) (ms : List Measured) : Sizes :=
  (ms.map fun m => (m.name, m.size)).reverse ++ sizes

theorem measureFrom_append (policy : NestedSizing) (sizes : Sizes) (a b : List Record) :
    measureFrom policy sizes (a ++ b) =
      measureFrom policy sizes a ++
        measureFrom policy (sizesAfter sizes (measureFrom policy sizes a)) b := by
  induction a generalizing sizes with
  | nil => simp [measureFrom, sizesAfter]
  | cons r rest ih => simp [measureFrom, ih, sizesAfter]

theorem map_name_measureFrom (policy : NestedSizing) (sizes : Sizes) (rs : List Record) :
    (measureFrom policy sizes rs).map (·.name) = rs.map (·.name) := by
  induction rs generalizing sizes with
  | nil => rfl
  | cons r rest ih => simp [measureFrom, measure, ih]

/-! ## Reports -/

/-- A record whose size is no multiple of a word. -/
structure Warning where
  record : String
  size : Nat
  deriving DecidableEq, Repr

/-- The warning as a line for people. -/
def Warning.text (w : Warning) : String :=
  "Warning: " ++ w.record ++ " is not 32-bit aligned. Size: " ++ toString w.size ++ " bytes"

/-- The outcome of a check: every record with its size, in schema order. -/
structure Report where
  measured : List Measured
  deriving DecidableEq, Repr

namespace Report

/-- The size of the last record of that name. -/
def recordSize? (report : Report) (name : String) : Option Nat :=
  Sizes.get? (sizesAfter [] report.measured) name

/-- The warning for one record, if it deserves one. A record that bears the name of a
primitive is never reported. -/
def warning? (m : Measured) : Option Warning :=
  if (Primitive.ofToken? m.name).isNone && m.size % wordSize != 0 then
    some ⟨m.name, m.size⟩
  else
    none

/-- All warnings, in schema order. -/
def warnings (report : Report) : List Warning :=
  report.measured.filterMap warning?

/-- Whether there is nothing to warn about. -/
def isAligned (report : Report) : Bool :=
  report.warnings.isEmpty

end Report

/-- Check every record of a schema. -/
def checkAlignment (policy : NestedSizing) (schema : Schema) : Report :=
  ⟨measureFrom policy [] schema.records⟩

end MemMap
