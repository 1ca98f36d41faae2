import MemMap.Proofs.Grammar

/-!
# MemMap.Proofs.Spelling

The many documents of one schema.

A document spells a schema if it lists the schema's records and their fields in order. Each
field is free to give its type as a bare token or as a mapping that holds the token under
`type`, among any other entries (`SpellsType`), and all these choices are independent. What
the spellings of a schema have in common is that they describe it, provided its types are
read back from their own tokens (`Schema.Canonical`); and the schemas that are read at all
are of that kind.

* `describes_of_spelled` — every spelling describes its schema;
* `canonical_of_describes` — a schema that is described has canonical types;
* `ofValue_spelled` — loading undoes every spelling.
-/

namespace MemMap

open Yaml

/-! ## Spellings -/

/-- A value that gives the type of that token: the token itself, or a mapping that holds it
under the bare string `type`. No other entry may have that key; apart from that, other
entries are free. -/
inductive SpellsType (token : String) : Value → Prop
  | bare : SpellsType token (.string token)
  | keyed {before after : List (Value × Value)}
      (others : ∀ e ∈ before ++ after, e.1 ≠ .string "type") :
      SpellsType token (.mapping (before ++ (.string "type", .string token) :: after))

/-- An entry that spells a field. -/
inductive Field.Spelled (f : Field) : Value × Value → Prop
  | mk {spec : Value} (h : SpellsType f.type.text spec) : f.Spelled (.string f.name, spec)

/-- An entry that spells a record: its name, and its fields in order. -/
inductive Record.Spelled (r : Record) : Value × Value → Prop
  | mk {body : List (Value × Value)} (h : List.Forall₂ Field.Spelled r.fields body) :
      r.Spelled (.string r.name, .mapping body)

/-- A document that spells a schema: its records in order. -/
inductive Schema.Spelled (s : Schema) : Value → Prop
  | mk {entries : List (Value × Value)} (h : List.Forall₂ Record.Spelled s.records entries) :
      s.Spelled (.mapping entries)

/-! ## Canonical types -/

/-- A type that is read back from its own token. -/
def TypeToken.IsCanonical (t : TypeToken) : Prop := parse t.text = t

instance (t : TypeToken) : Decidable t.IsCanonical :=
  inferInstanceAs (Decidable (TypeToken.parse t.text = t))

def Record.Canonical (r : Record) : Prop := ∀ f ∈ r.fields, f.type.IsCanonical

instance (r : Record) : Decidable r.Canonical :=
  inferInstanceAs (Decidable (∀ f ∈ r.fields, f.type.IsCanonical))

/-- A schema all of whose types are read back from their own tokens. -/
def Schema.Canonical (s : Schema) : Prop := ∀ r ∈ s.records, r.Canonical

instance (s : Schema) : Decidable s.Canonical :=
  inferInstanceAs (Decidable (∀ r ∈ s.records, r.Canonical))

theorem TypeToken.isCanonical_parse (token : String) : (parse token).IsCanonical := by
  rw [IsCanonical, text_parse]

/-! ## Spellings describe their schema -/

theorem givesType_of_spellsType {token : String} {spec : Value} (h : SpellsType token spec) :
    spec.GivesType token := by
  cases h with
  | bare => exact .bare token
  | keyed others =>
      exact .keyed (fun e he => others e (List.mem_append_left _ he)) (.string token)

theorem describesField_of_spelled {f : Field} {entry : Value × Value}
    (hf : f.type.IsCanonical) (h : f.Spelled entry) : DescribesField entry f := by
  obtain ⟨name, type⟩ := f
  obtain ⟨htype⟩ := h
  have hfield := DescribesField.mk (.string name) (givesType_of_spellsType htype)
  rwa [show TypeToken.parse type.text = type from hf] at hfield

/-- Lists whose members are all spelled, each by the entry in its place, are described. -/
theorem forall₂_of_spelled {α : Type} {Canonical : α → Prop}
    {Spelled : α → Value × Value → Prop} {Describes : Value × Value → α → Prop}
    (hmem : ∀ a e, Canonical a → Spelled a e → Describes e a) {as : List α}
    {entries : List (Value × Value)} (has : ∀ a ∈ as, Canonical a)
    (h : List.Forall₂ Spelled as entries) : List.Forall₂ Describes entries as := by
  have hboth := (List.forall₂_and_left as entries).mpr ⟨has, h⟩
  exact (hboth.imp fun a e hae => hmem a e hae.1 hae.2).flip

theorem describesRecord_of_spelled {r : Record} {entry : Value × Value} (hr : r.Canonical)
    (h : r.Spelled entry) : DescribesRecord entry r := by
  obtain ⟨name, fields⟩ := r
  obtain ⟨hfields⟩ := h
  exact .mk (.string name)
    (forall₂_of_spelled (fun _ _ => describesField_of_spelled) hr hfields)

theorem describes_of_spelled {s : Schema} {v : Value} (hs : s.Canonical) (h : s.Spelled v) :
    Describes v s := by
  obtain ⟨records⟩ := s
  obtain ⟨hrecords⟩ := h
  exact .mk (forall₂_of_spelled (fun _ _ => describesRecord_of_spelled) hs hrecords)

/-! ## Described schemas are canonical -/

/-- What holds of everything that is related to something holds along a related list. -/
theorem forall_mem_of_forall₂ {α β : Type} {R : α → β → Prop} {p : β → Prop} {as : List α}
    {bs : List β} (h : List.Forall₂ R as bs) (hp : ∀ a b, R a b → p b) : ∀ b ∈ bs, p b := by
  induction h with
  | nil => simp
  | cons hab _ ih => exact List.forall_mem_cons.mpr ⟨hp _ _ hab, ih⟩

theorem canonical_of_describesRecord {entry : Value × Value} {r : Record}
    (h : DescribesRecord entry r) : r.Canonical := by
  obtain ⟨-, hfields⟩ := h
  refine forall_mem_of_forall₂ hfields fun e f hf => ?_
  obtain ⟨-, -⟩ := hf
  exact TypeToken.isCanonical_parse _

theorem canonical_of_describes {v : Value} {s : Schema} (h : Describes v s) : s.Canonical := by
  obtain ⟨hrecords⟩ := h
  exact forall_mem_of_forall₂ hrecords fun _ _ => canonical_of_describesRecord

/-! ## Loading -/

/-- **Loading undoes every spelling.** A schema of canonical types is read from every document
that spells it, whichever spelling each field has, and whatever else stands beside its type.
Whatever document a schema is read from, its types are canonical. -/
theorem ofValue_spelled (s : Schema) (v : Value) :
    (s.Canonical → s.Spelled v → Schema.ofValue v = .ok s) ∧
      (Schema.ofValue v = .ok s → s.Canonical) :=
  ⟨fun hs h => ofValue_eq_ok_iff.mpr (describes_of_spelled hs h),
    fun h => canonical_of_describes (ofValue_eq_ok_iff.mp h)⟩

/-- Entries around a type: a tagged key `type`, a key that is no text, and a remark. -/
def mixedAttributes : List (Value × Value) :=
  [(.tagged "!t" (.string "type"), .string "i32"), (.null, .sequence [.null])] ++
    (.string "type", .string "Later") :: [(.string "remark", .bool true)]

def mixedDocument : Value :=
  .mapping
    [(.string "A", .mapping [(.string "x", .string "u8"), (.string "y", .mapping mixedAttributes)]),
      (.string "Later", .mapping [])]

def mixedSchema : Schema :=
  ⟨[⟨"A", [⟨"x", .primitive .u8⟩, ⟨"y", .named "Later"⟩]⟩, ⟨"Later", []⟩]⟩

theorem ofValue_spelled_mixed :
    mixedSchema.Canonical ∧ mixedSchema.Spelled mixedDocument ∧
      Schema.ofValue mixedDocument = .ok mixedSchema := by
  have hcanonical : mixedSchema.Canonical := by decide
  have hkeyed : SpellsType "Later" (.mapping mixedAttributes) := .keyed (by simp)
  have hspelled : mixedSchema.Spelled mixedDocument :=
    .mk (.cons (.mk (.cons (.mk .bare) (.cons (.mk hkeyed) .nil))) (.cons (.mk .nil) .nil))
  exact ⟨hcanonical, hspelled, (ofValue_spelled _ _).1 hcanonical hspelled⟩

end MemMap
