/-!
# MemMap.Schema

A memory map as data: an ordered list of records, each an ordered list of named fields.
Order is part of the meaning, because it is the order in which fields lie in memory.

A field's type is written as a token. Six tokens are fixed-width primitives; every other
token is the name of a record or of a type defined elsewhere, and is kept as written.

* `TypeToken.text_parse` — a type that was read is spelled as it was written;
* `Schema.record?_eq_some_iff` — looking a record up by name finds the first of that name.
-/

namespace MemMap

/-! ## Primitives -/

/-- The fixed-width integers a field may hold. -/
inductive Primitive where
  | u8
  | u16
  | u32
  | i8
  | i16
  | i32
  deriving DecidableEq, Repr

namespace Primitive

/-- Every primitive, unsigned before signed and narrow before wide. -/
def all : List Primitive := [u8, u16, u32, i8, i16, i32]

/-- How a schema spells the primitive. -/
def token : Primitive → String
  | u8 => "u8"
  | u16 => "u16"
  | u32 => "u32"
  | i8 => "i8"
  | i16 => "i16"
  | i32 => "i32"

/-- Width in bytes. -/
def size : Primitive → Nat
  | u8 | i8 => 1
  | u16 | i16 => 2
  | u32 | i32 => 4

/-- The primitive that `text` spells. Case matters: `U8` is no primitive. -/
def ofToken? (text : String) : Option Primitive :=
  all.find? (·.token == text)

theorem mem_all (p : Primitive) : p ∈ all := by
  cases p <;> decide

theorem ofToken?_eq_some_iff {text : String} {p : Primitive} :
    ofToken? text = some p ↔ p.token = text := by
  constructor
  · intro h
    simpa using List.find?_some h
  · rintro rfl
    cases p <;> decide

end Primitive

/-! ## Types -/

/-- The type of a field: a primitive, or the name of something defined elsewhere. -/
inductive TypeToken where
  | primitive (p : Primitive)
  | named (name : String)
  deriving DecidableEq, Repr

namespace TypeToken

/-- Read a token: a primitive if it spells one, otherwise a name taken as written. -/
def parse (text : String) : TypeToken :=
  match Primitive.ofToken? text with
  | some p => .primitive p
  | none => .named text

/-- The spelling of a type in a schema. -/
def text : TypeToken → String
  | .primitive p => p.token
  | .named name => name

@[simp]
theorem text_parse (t : String) : (parse t).text = t := by
  unfold parse
  split
  next p h => exact Primitive.ofToken?_eq_some_iff.1 h
  next => rfl

end TypeToken

/-! ## Records and schemas -/

/-- One field of a record. -/
structure Field where
  name : String
  type : TypeToken
  deriving DecidableEq, Repr

/-- A named, ordered list of fields. -/
structure Record where
  name : String
  fields : List Field
  deriving DecidableEq, Repr

/-- The records of a memory map in declaration order. Names may repeat when a schema is put
together by hand. -/
structure Schema where
  records : List Record
  deriving DecidableEq, Repr

namespace Schema

/-- Number of records. -/
def size (s : Schema) : Nat := s.records.length

/-- Whether there are no records. -/
def isEmpty (s : Schema) : Bool := s.records.isEmpty

/-- The first record of that name. -/
def record? (s : Schema) (name : String) : Option Record :=
  s.records.find? (·.name == name)

/-- **Looking up.** What is found is a record of that name with none of that name before it. -/
theorem record?_eq_some_iff {s : Schema} {name : String} {r : Record} :
    s.record? name = some r ↔ r.name = name ∧
      ∃ before after, s.records = before ++ r :: after ∧ ∀ q ∈ before, q.name ≠ name := by
  simp [record?, List.find?_eq_some_iff_append]

theorem record?_eq_none_iff {s : Schema} {name : String} :
    s.record? name = none ↔ ∀ r ∈ s.records, r.name ≠ name := by
  simp [record?]

end Schema

end MemMap
