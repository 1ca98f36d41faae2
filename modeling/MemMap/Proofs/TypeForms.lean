import MemMap.Alignment
import MemMap.Proofs.FirstFault
import MemMap.Target

/-!
# MemMap.Proofs.TypeForms

The two forms of a type.

A field gives its type bare or, in a mapping, under the key `type`. In any document the one
form may stand for the other: what is read, and the fault that is reported where nothing is,
are the same. This holds of strings as they are. A string under a tag is a type under the key
`type`, where tags are looked through, but it is none in the bare form, where they are not
(`tagged_type_not_bare`).

A document with a place for a type left open is a `TypePlace`. What is read of it depends on
what is read of the value that fills the place (`ofValue_fill_congr`).

* `result_readType_keyed` — the keyed form of a string, tagged or not;
* `isType_of_isDocument_fill` — what fills a place of a schema is a type;
* `type_forms` — where the two forms agree, and where they do not.
-/

namespace MemMap

open Yaml

/-! ## Places of types -/

/-- All of a document but the type of one field. -/
structure TypePlace where
  /-- The entries before the record, and its key. -/
  before : List (Value × Value)
  record : Value
  /-- The fields before the one that is open, and its key. -/
  front : List (Value × Value)
  field : Value
  /-- The fields after it. -/
  back : List (Value × Value)
  /-- The entries after the record. -/
  after : List (Value × Value)

/-- The document with a value as the type of that field. -/
def TypePlace.fill (p : TypePlace) (spec : Value) : Value :=
  .mapping (p.before ++
    (p.record, .mapping (p.front ++ (p.field, spec) :: p.back)) :: p.after)

/-- A mapping that holds a value under the bare key `type`, among other entries. -/
def keyedType (before after : List (Value × Value)) (v : Value) : Value :=
  .mapping (before ++ (.string "type", v) :: after)

theorem result_readField_congr {record : String} {key v w : Value}
    (h : ∀ field, (readType record field v).result = (readType record field w).result) :
    (readField record (key, v)).result = (readField record (key, w)).result := by
  simp only [readField, Walk.result_bind, h]

theorem result_readFields_congr {record : String} {e e' : Value × Value}
    (h : (readField record e).result = (readField record e').result)
    (front back : List (Value × Value)) :
    (readFields record (front ++ e :: back)).result =
      (readFields record (front ++ e' :: back)).result := by
  simp only [result_readFields_append, readFields, Walk.result_bind, h]

theorem result_readRecord_congr {key v w : Value}
    (h : ∀ name, (readBody name v).result = (readBody name w).result) :
    (readRecord (key, v)).result = (readRecord (key, w)).result := by
  simp only [readRecord, Walk.result_bind, h]

theorem ofValue_entry_congr {e e' : Value × Value}
    (h : (readRecord e).result = (readRecord e').result) (before after : List (Value × Value)) :
    Schema.ofValue (.mapping (before ++ e :: after)) =
      Schema.ofValue (.mapping (before ++ e' :: after)) := by
  simp only [ofValue_mapping, result_readRecords_append, readRecords, Walk.result_bind, h]

/-- **Places of types.** A document is read by what is read of the type in its open place. -/
theorem ofValue_fill_congr (p : TypePlace) {v w : Value}
    (h : ∀ record field, (readType record field v).result = (readType record field w).result) :
    Schema.ofValue (p.fill v) = Schema.ofValue (p.fill w) := by
  refine ofValue_entry_congr (result_readRecord_congr fun name => ?_) p.before p.after
  exact result_readFields_congr (result_readField_congr (h name)) p.front p.back

/-! ## The two forms -/

theorem result_readType_bare (record field token : String) :
    (readType record field (.string token)).result = .ok token :=
  result_readType_eq_ok_iff.mpr (.bare token)

/-- A mapping gives the type that is spelled under `type`, whatever else it holds. -/
theorem result_readType_keyed {before after : List (Value × Value)} {v : Value} {token : String}
    (hothers : ∀ e ∈ before ++ after, e.1 ≠ .string "type") (hv : v.Spells token)
    (record field : String) :
    (readType record field (keyedType before after v)).result = .ok token :=
  result_readType_eq_ok_iff.mpr
    (.keyed (fun e he => hothers e (List.mem_append_left after he)) hv)

/-- A value that spells a text and is not that text itself gives no type. -/
theorem not_isType_of_spells {v : Value} {token : String} (hv : v.Spells token)
    (hne : v ≠ .string token) : ¬ v.IsType := by
  rintro ⟨other, htype⟩
  cases hv with
  | string => exact hne rfl
  | tagged tag hinner => cases htype

/-- In a document that is a schema, what fills a place of a type is one. -/
theorem isType_of_isDocument_fill {p : TypePlace} {v : Value} (h : (p.fill v).IsDocument) :
    v.IsType := by
  obtain ⟨entries, heq, hentries⟩ := h
  obtain rfl := Value.mapping.inj heq
  obtain ⟨-, body, hbody, hfields⟩ :=
    hentries (p.record, .mapping (p.front ++ (p.field, v) :: p.back)) (by simp)
  obtain rfl := Value.mapping.inj hbody
  exact (hfields (p.field, v) (by simp)).2

/-- What comes of a document: its sources, and the report of its check. -/
def Schema.products (policy : NestedSizing) (document : Value) :
    Except SchemaFault (List GeneratedFile × Report) := do
  let s ← Schema.ofValue document
  return (generate s, checkAlignment policy s)

/-- **The two forms of a type.** In any place of any document, a bare token and a mapping that
holds it under `type`, among entries of other keys, are read alike, faults included; so the
same comes of both. Of a token under tags this is true only of the keyed form: it is read as
if there were no tags, but in the bare form the document is no schema. -/
theorem type_forms (p : TypePlace) (token : String) {before after : List (Value × Value)}
    (hothers : ∀ e ∈ before ++ after, e.1 ≠ .string "type") :
    Schema.ofValue (p.fill (.string token)) =
        Schema.ofValue (p.fill (keyedType before after (.string token))) ∧
      (∀ policy, Schema.products policy (p.fill (.string token)) =
        Schema.products policy (p.fill (keyedType before after (.string token)))) ∧
      ∀ v : Value, v.Spells token → v ≠ .string token →
        Schema.ofValue (p.fill (keyedType before after v)) =
            Schema.ofValue (p.fill (.string token)) ∧
          ∀ s, Schema.ofValue (p.fill v) ≠ .ok s := by
  have hkeyed : ∀ v : Value, v.Spells token → Schema.ofValue (p.fill (.string token)) =
      Schema.ofValue (p.fill (keyedType before after v)) := fun v hv =>
    ofValue_fill_congr p fun record field => by
      rw [result_readType_bare, result_readType_keyed hothers hv]
  have hbare := hkeyed (.string token) (.string token)
  refine ⟨hbare, fun policy => ?_, fun v hv hne => ⟨(hkeyed v hv).symm, fun s hs => ?_⟩⟩
  · rw [Schema.products, Schema.products, hbare]
  · have hdocument := exists_describes_iff.mp ⟨s, ofValue_eq_ok_iff.mp hs⟩
    exact not_isType_of_spells hv hne (isType_of_isDocument_fill hdocument)

/-- A place in the second of two records, behind a field and before one that names a record. -/
def innerPlace : TypePlace where
  before := [(.string "A", .mapping [])]
  record := .tagged "!t" (.string "B")
  front := [(.string "x", .string "u8")]
  field := .string "y"
  back := [(.string "z", .string "A")]
  after := []

def remarksBefore : List (Value × Value) := [(.null, .null)]

/-- A tagged key `type`, which is another key. -/
def remarksAfter : List (Value × Value) := [(.tagged "!t" (.string "type"), .string "i8")]

theorem type_forms_inner :
    Schema.ofValue
        (innerPlace.fill (keyedType remarksBefore remarksAfter (.tagged "!u" (.string "u16")))) =
        .ok ⟨[⟨"A", []⟩, ⟨"B", [⟨"x", .primitive .u8⟩, ⟨"y", .primitive .u16⟩,
          ⟨"z", .named "A"⟩]⟩]⟩ ∧
      (∀ s, Schema.ofValue (innerPlace.fill (.tagged "!u" (.string "u16"))) ≠ .ok s) ∧
      Schema.products .skip (innerPlace.fill (.string "u16")) = Schema.products .skip
        (innerPlace.fill (keyedType remarksBefore remarksAfter (.string "u16"))) := by
  have hothers : ∀ e ∈ remarksBefore ++ remarksAfter, e.1 ≠ Value.string "type" := by
    simp [remarksBefore, remarksAfter]
  obtain ⟨-, hproducts, htagged⟩ := type_forms innerPlace "u16" hothers
  have hspells : (Value.tagged "!u" (.string "u16")).Spells "u16" := .tagged "!u" (.string "u16")
  obtain ⟨hkeyed, hbare⟩ := htagged _ hspells (by simp)
  exact ⟨hkeyed.trans rfl, hbare, hproducts .skip⟩

/-- A document that is all but one type. -/
def onlyPlace : TypePlace := ⟨[], .string "A", [], .string "a", [], []⟩

/-- **A tagged token is no bare type.** The document is no schema, though under `type` the same
token is read as a type. -/
theorem tagged_type_not_bare :
    (Value.tagged "!t" (.string "u8")).text? = some "u8" ∧
      Schema.ofValue (onlyPlace.fill (.tagged "!t" (.string "u8"))) =
        .error (.notType "A" "a") ∧
      Schema.ofValue (onlyPlace.fill (keyedType [] [] (.tagged "!t" (.string "u8")))) =
        .ok ⟨[⟨"A", [⟨"a", .primitive .u8⟩]⟩]⟩ ∧
      (Schema.ofYaml "A:\n  a: !t u8\n").toOption = none ∧
      (Schema.ofYaml "A:\n  a: {type: !t u8}\n").toOption =
        some ⟨[⟨"A", [⟨"a", .primitive .u8⟩]⟩]⟩ :=
  ⟨rfl, rfl, rfl, by decide +kernel, by decide +kernel⟩

end MemMap
