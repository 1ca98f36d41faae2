import MemMap.Target.Profile

/-!
# MemMap.Proofs.Struct

What a profile is handed to write.

Before it becomes text, a record is a `Struct`: its name, and for each field in order the
spelling of its type together with its name. `Profile.structs` is the sequence of structs of
a schema in one language and `Profile.write` puts such a sequence into the language's
syntax. The walk over a schema is the two one after the other (`render_eq_write`), so a
statement about generated sources may speak of spellings and names and leave schemas alone.
-/

namespace MemMap

/-- A field before it is put into syntax. -/
@[ext] structure FieldLine where
  /-- The language's spelling of the field's type. -/
  spelling : String
  name : String
  deriving DecidableEq, Repr

/-- A record before it is put into syntax. -/
structure Struct where
  name : String
  lines : List FieldLine
  deriving DecidableEq, Repr

namespace Profile

/-! ## From records to structs -/

def lineOf (p : Profile) (f : Field) : FieldLine := ⟨p.typeName f.type, f.name⟩

def structOf (p : Profile) (r : Record) : Struct := ⟨r.name, r.fields.map p.lineOf⟩

/-- The structs of a schema, in the order in which they are written. -/
def structs (p : Profile) (s : Schema) : List Struct := s.records.map p.structOf

/-! ## From structs to text -/

def writeLines (p : Profile) : List FieldLine → String
  | [] => ""
  | l :: rest => p.field l.name l.spelling ++ p.writeLines rest

/-- One struct from its opening to its closing. -/
def writeStruct (p : Profile) (d : Struct) : String :=
  p.openStruct d.name ++ p.writeLines d.lines ++ p.closeStruct d.name

def writeStructs (p : Profile) : List Struct → String
  | [] => ""
  | d :: rest => p.writeStruct d ++ p.writeStructs rest

/-- A whole source of some structs. -/
def write (p : Profile) (ds : List Struct) : String :=
  p.prologue MapVersion.current ++ p.writeStructs ds ++ p.epilogue MapVersion.current

theorem renderFields_eq_writeLines (p : Profile) (fields : List Field) :
    p.renderFields fields = p.writeLines (fields.map p.lineOf) := by
  induction fields with
  | nil => rfl
  | cons f rest ih => rw [renderFields, ih, List.map_cons, writeLines, lineOf]

theorem renderRecords_eq_writeStructs (p : Profile) (rs : List Record) :
    p.renderRecords rs = p.writeStructs (rs.map p.structOf) := by
  induction rs with
  | nil => rfl
  | cons r rest ih =>
      rw [renderRecords, ih, List.map_cons, writeStructs, renderRecord,
        renderFields_eq_writeLines, writeStruct, structOf]

/-- **A source is written from its structs.** Nothing but the names of records and fields
and the spellings of types goes into a generated source. -/
theorem render_eq_write (p : Profile) (s : Schema) : p.render s = p.write (p.structs s) := by
  rw [render, renderRecords_eq_writeStructs, write, structs]

end Profile

end MemMap
