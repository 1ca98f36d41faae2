import MemMap.Schema

/-!
# MemMap.Target.Profile

One walk over a schema serves every target language. A `Profile` holds the syntax of a
language; `render` puts the pieces together in schema order: a prologue, then for each
record its opening, its fields and its closing, then an epilogue.

Both ends of a generated source carry the version of the memory map.
-/

namespace MemMap

/-! ## The memory map version -/

/-- The version stamped into generated sources, four bytes in layout order. -/
structure MapVersion where
  major : UInt8
  minor : UInt8
  spin : UInt8
  res0 : UInt8
  deriving DecidableEq, Repr

namespace MapVersion

/-- The version that this generator stamps. -/
def current : MapVersion := ⟨0, 1, 0, 0⟩

/-- Name of the emitted constant. -/
def constName : String := "EC_MEMMAP_VERSION"

/-- Type of the emitted constant; a schema is expected to declare it as a record. -/
def typeName : String := "Version"

/-- The four bytes in layout order. -/
def bytes (v : MapVersion) : List UInt8 := [v.major, v.minor, v.spin, v.res0]

end MapVersion

/-! ## Profiles -/

/-- The syntax of one target language. -/
structure Profile where
  /-- The language's name in status lines. -/
  language : String
  /-- Text before the first record. -/
  prologue : MapVersion → String
  /-- The target's spelling of a field type. -/
  typeName : TypeToken → String
  /-- What opens the record of that name. -/
  openStruct : String → String
  /-- One field, from its name and the spelling of its type. -/
  field : String → String → String
  /-- What closes the record of that name. -/
  closeStruct : String → String
  /-- Text after the last record. -/
  epilogue : MapVersion → String

namespace Profile

/-- The lines of some fields, in order. -/
def renderFields (p : Profile) : List Field → String
  | [] => ""
  | f :: rest => p.field f.name (p.typeName f.type) ++ p.renderFields rest

/-- One record from its opening to its closing. -/
def renderRecord (p : Profile) (r : Record) : String :=
  p.openStruct r.name ++ p.renderFields r.fields ++ p.closeStruct r.name

/-- Some records, in order. -/
def renderRecords (p : Profile) : List Record → String
  | [] => ""
  | r :: rest => p.renderRecord r ++ p.renderRecords rest

/-- The whole source for a schema. -/
def render (p : Profile) (s : Schema) : String :=
  p.prologue MapVersion.current ++ p.renderRecords s.records ++ p.epilogue MapVersion.current

end Profile

end MemMap
