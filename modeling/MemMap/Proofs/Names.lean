import MemMap.Proofs.Grammar
import MemMap.Proofs.Totals

/-!
# MemMap.Proofs.Names

When the names of a loaded schema are distinct.

The names of a schema are the texts of the document's keys, in order (`Value.keyTexts`). No
mapping of a document repeats a key, but a key is more than its text: `!t A` and `A` are two
keys, and both spell `A`. So distinct keys make distinct names as long as no key is tagged
(`namesApart_of_keysDiffer`), and a tag can make two names meet (`taggedTwice`).

Where names are distinct, a schema is a mapping: looking a record up by its name finds that
record, and the check reports each warned size under its name. The two look-ups part as soon
as a name repeats, for one finds the first record of a name and the other the last.

* `keyTexts_eq_of_describesRecords`, `keyTexts_eq_of_describesFields` — where names come from;
* `record?_eq_some_of_mem`, `recordSize?_of_mem_warnings` — looking up distinct names;
* `loaded_names` — when names are distinct, and what follows.
-/

namespace MemMap

open Yaml

/-! ## Keys and their texts -/

namespace Yaml.Value

/-- The entries of a mapping; other values have none. -/
def entries : Value → List (Value × Value)
  | .mapping entries => entries
  | _ => []

/-- The texts that the keys of a mapping spell, in order. -/
def keyTexts (v : Value) : List String :=
  v.entries.filterMap (·.1.text?)

/-- No two keys of the document, and no two of one body, spell the same text. -/
def NamesApart (v : Value) : Prop :=
  v.keyTexts.Nodup ∧ ∀ e ∈ v.entries, e.2.keyTexts.Nodup

instance (v : Value) : Decidable v.NamesApart :=
  inferInstanceAs (Decidable (_ ∧ _))

def isTagged : Value → Bool
  | .tagged _ _ => true
  | _ => false

/-- No key of the document or of a body is tagged. -/
def BareKeys (v : Value) : Prop :=
  ∀ e ∈ v.entries, e.1.isTagged = false ∧ ∀ f ∈ e.2.entries, f.1.isTagged = false

mutual

/-- Whether no mapping in a value, at any depth, has the same key twice. -/
def keysDiffer : Value → Bool
  | .sequence items => keysDifferItems items
  | .mapping entries => keysDifferEntries entries
  | .tagged _ v => v.keysDiffer
  | _ => true

def keysDifferItems : List Value → Bool
  | [] => true
  | v :: rest => v.keysDiffer && keysDifferItems rest

def keysDifferEntries : List (Value × Value) → Bool
  | [] => true
  | (k, v) :: rest =>
    !Construct.hasKey rest k && k.keysDiffer && v.keysDiffer && keysDifferEntries rest

end

/-- An untagged key that spells a text is that string. -/
theorem eq_string_of_text? {k : Value} {text : String} (hk : k.isTagged = false)
    (h : k.text? = some text) : k = .string text := by
  cases k with
  | string t =>
      have ht : t = text := Option.some.inj h
      rw [ht]
  | tagged tag v => cases hk
  | _ => cases h

/-- **Distinct keys without tags spell distinct texts.** -/
theorem nodup_texts_of_keysDiffer {entries : List (Value × Value)}
    (hdiffer : keysDifferEntries entries = true)
    (hbare : ∀ e ∈ entries, e.1.isTagged = false) :
    (entries.filterMap (·.1.text?)).Nodup := by
  induction entries with
  | nil => exact List.nodup_nil
  | cons e rest ih =>
      obtain ⟨k, v⟩ := e
      simp only [keysDifferEntries, Bool.and_eq_true, Bool.not_eq_true'] at hdiffer
      obtain ⟨⟨⟨hkey, _⟩, _⟩, hrest⟩ := hdiffer
      have hk : k.isTagged = false := hbare (k, v) List.mem_cons_self
      have hbareRest := fun e he => hbare e (List.mem_cons_of_mem (k, v) he)
      have hnodup := ih hrest hbareRest
      cases htext : k.text? with
      | none => simpa [List.filterMap_cons, htext] using hnodup
      | some text =>
          simp only [List.filterMap_cons, htext, List.nodup_cons]
          refine ⟨fun hmem => ?_, hnodup⟩
          obtain ⟨e, he, hetext⟩ := List.mem_filterMap.mp hmem
          have hsame : k.same e.1 = true := by
            rw [eq_string_of_text? hk htext, eq_string_of_text? (hbareRest e he) hetext]
            simp [same]
          have hthere : Construct.hasKey rest k = true := List.any_eq_true.mpr ⟨e, he, hsame⟩
          rw [hkey] at hthere
          cases hthere

theorem keysDiffer_of_mem {entries : List (Value × Value)} {e : Value × Value}
    (hdiffer : keysDifferEntries entries = true) (he : e ∈ entries) : e.2.keysDiffer = true := by
  induction entries with
  | nil => cases he
  | cons head rest ih =>
      obtain ⟨k, v⟩ := head
      simp only [keysDifferEntries, Bool.and_eq_true] at hdiffer
      rcases List.mem_cons.mp he with rfl | hrest
      · exact hdiffer.1.2
      · exact ih hdiffer.2 hrest

theorem keysDifferEntries_entries {v : Value} (h : v.keysDiffer = true) :
    keysDifferEntries v.entries = true := by
  cases v with
  | mapping entries => exact h
  | _ => rfl

/-- A document with distinct keys, none of them tagged, keeps its names apart. -/
theorem namesApart_of_keysDiffer {v : Value} (hdiffer : v.keysDiffer = true)
    (hbare : v.BareKeys) : v.NamesApart := by
  have hentries := keysDifferEntries_entries hdiffer
  refine ⟨nodup_texts_of_keysDiffer hentries fun e he => (hbare e he).1, fun e he => ?_⟩
  have hbody := keysDifferEntries_entries (keysDiffer_of_mem hentries he)
  exact nodup_texts_of_keysDiffer hbody (hbare e he).2

end Yaml.Value

/-! ## Names are texts of keys -/

/-- Along related lists of entries and results, the texts of the keys are the names. -/
theorem filterMap_text?_eq_map_name {α : Type} {R : Value × Value → α → Prop}
    {name : α → String} (hR : ∀ e a, R e a → e.1.Spells (name a))
    {entries : List (Value × Value)} {as : List α} (h : List.Forall₂ R entries as) :
    entries.filterMap (·.1.text?) = as.map name := by
  induction h with
  | nil => rfl
  | cons hea _ ih =>
      have htext := Value.text?_eq_some_iff.mpr (hR _ _ hea)
      rw [List.filterMap_cons, htext, List.map_cons, ih]

theorem keyTexts_eq_of_describesFields {body : List (Value × Value)} {fields : List Field}
    (h : List.Forall₂ DescribesField body fields) :
    (Value.mapping body).keyTexts = fields.map (·.name) :=
  filterMap_text?_eq_map_name (fun _ _ hf => by cases hf with | mk hname _ => exact hname) h

theorem keyTexts_eq_of_describesRecords {entries : List (Value × Value)} {records : List Record}
    (h : List.Forall₂ DescribesRecord entries records) :
    (Value.mapping entries).keyTexts = records.map (·.name) :=
  filterMap_text?_eq_map_name (fun _ _ hr => by cases hr with | mk hname _ => exact hname) h

/-! ## Distinct names -/

/-- A schema in which no record shares its name with another, and no field with another of
the same record. -/
def Schema.NamesDistinct (s : Schema) : Prop :=
  (s.records.map (·.name)).Nodup ∧ ∀ r ∈ s.records, (r.fields.map (·.name)).Nodup

instance (s : Schema) : Decidable s.NamesDistinct :=
  inferInstanceAs (Decidable (_ ∧ _))

/-- What holds of every member of a list holds of every member of a related one. -/
theorem forall_mem_iff_of_forall₂ {α β : Type} {R : α → β → Prop} {p : α → Prop}
    {q : β → Prop} (hR : ∀ a b, R a b → (p a ↔ q b)) {as : List α} {bs : List β}
    (h : List.Forall₂ R as bs) : (∀ a ∈ as, p a) ↔ ∀ b ∈ bs, q b := by
  induction h with
  | nil => simp
  | cons hab _ ih => rw [List.forall_mem_cons, List.forall_mem_cons, hR _ _ hab, ih]

/-- **Where names come from.** A schema has distinct names if and only if the document it
describes keeps them apart. -/
theorem namesDistinct_iff_of_describes {v : Value} {s : Schema} (h : Describes v s) :
    s.NamesDistinct ↔ v.NamesApart := by
  obtain ⟨hrecords⟩ := h
  have hfields : ∀ (e : Value × Value) (r : Record), DescribesRecord e r →
      (e.2.keyTexts.Nodup ↔ (r.fields.map (·.name)).Nodup) := by
    intro e r hr
    obtain ⟨_, hbody⟩ := hr
    rw [keyTexts_eq_of_describesFields hbody]
  unfold Schema.NamesDistinct Value.NamesApart
  rw [keyTexts_eq_of_describesRecords hrecords, Value.entries,
    forall_mem_iff_of_forall₂ hfields hrecords]

/-- Among distinct names, every record is found by its own. -/
theorem record?_eq_some_of_mem {s : Schema} (hd : (s.records.map (·.name)).Nodup) {r : Record}
    (hr : r ∈ s.records) : s.record? r.name = some r := by
  obtain ⟨before, after, hrecords⟩ := List.append_of_mem hr
  refine Schema.record?_eq_some_iff.mpr ⟨rfl, before, after, hrecords, fun q hq => ?_⟩
  rw [hrecords, List.map_append, List.map_cons, List.nodup_append] at hd
  exact hd.2.2 q.name (List.mem_map_of_mem hq) r.name List.mem_cons_self

/-- Among distinct names, the size in a warning is the one reported under its name. -/
theorem recordSize?_of_mem_warnings {policy : NestedSizing} {s : Schema} {w : Warning}
    (hd : (s.records.map (·.name)).Nodup) (hw : w ∈ (checkAlignment policy s).warnings) :
    (checkAlignment policy s).recordSize? w.record = some w.size := by
  have hmem := (Report.mem_warnings_iff.mp hw).1
  have hnames : (checkAlignment policy s).sizes.map Prod.fst = s.records.map (·.name) := by
    rw [Report.sizes, List.map_map]
    exact map_name_measureFrom policy [] s.records
  rw [Report.recordSize?_eq]
  refine Sizes.get?_eq_some_of_mem ?_ (List.mem_reverse.mpr hmem)
  rw [List.map_reverse, (List.reverse_perm _).nodup_iff, hnames]
  exact hd

/-! ## Loaded schemas -/

/-- **When a loaded schema is a mapping.** Its names are distinct if and only if no two keys of
the document, and no two of one body, spell the same text; distinct keys without tags are
enough. Where names are distinct, every record is found by its name, and every warning tells
the size that is reported under that name. -/
theorem loaded_names {v : Value} {s : Schema} (h : Schema.ofValue v = .ok s) :
    (s.NamesDistinct ↔ v.NamesApart) ∧
      (v.keysDiffer = true → v.BareKeys → s.NamesDistinct) ∧
      (s.NamesDistinct →
        (∀ r ∈ s.records, s.record? r.name = some r) ∧
          ∀ policy, ∀ w ∈ (checkAlignment policy s).warnings,
            (checkAlignment policy s).recordSize? w.record = some w.size) := by
  have hnames := namesDistinct_iff_of_describes (ofValue_eq_ok_iff.mp h)
  refine ⟨hnames, fun hdiffer hbare => ?_, fun hd => ⟨fun r hr => ?_, fun policy w hw => ?_⟩⟩
  · exact hnames.mpr (Value.namesApart_of_keysDiffer hdiffer hbare)
  · exact record?_eq_some_of_mem hd.1 hr
  · exact recordSize?_of_mem_warnings hd.1 hw

/-- Two records whose names are apart, one under a tag. -/
def taggedOnce : Value :=
  .mapping [(.tagged "!t" (.string "A"), .mapping [(.string "a", .string "u8")]),
    (.string "B", .mapping [(.string "a", .string "A")])]

theorem loaded_names_tagged :
    ∃ s, Schema.ofValue taggedOnce = .ok s ∧ s.NamesDistinct ∧
      (∀ r ∈ s.records, s.record? r.name = some r) ∧
      ⟨"B", 1⟩ ∈ (checkAlignment .resolve s).warnings ∧
      (checkAlignment .resolve s).recordSize? "B" = some 1 := by
  have hload : Schema.ofValue taggedOnce =
      .ok ⟨[⟨"A", [⟨"a", .primitive .u8⟩]⟩, ⟨"B", [⟨"a", .named "A"⟩]⟩]⟩ := rfl
  obtain ⟨hiff, _, hlookup⟩ := loaded_names hload
  have hd := hiff.mpr (by decide)
  obtain ⟨hrecords, hsizes⟩ := hlookup hd
  have hw : ⟨"B", 1⟩ ∈ (checkAlignment .resolve
      ⟨[⟨"A", [⟨"a", .primitive .u8⟩]⟩, ⟨"B", [⟨"a", .named "A"⟩]⟩]⟩).warnings := by decide
  exact ⟨_, hload, hd, hrecords, hw, hsizes .resolve _ hw⟩

/-- Two different keys of one text. -/
def taggedTwice : Value :=
  .mapping [(.tagged "!t" (.string "A"), .mapping [(.string "a", .string "u8")]),
    (.string "A", .mapping [(.string "a", .string "u16")])]

def repeatedSchema : Schema :=
  ⟨[⟨"A", [⟨"a", .primitive .u8⟩]⟩, ⟨"A", [⟨"a", .primitive .u16⟩]⟩]⟩

/-- **A tag can make two names meet.** The keys of this document are distinct, and it is
read, but its second record is not found by its name, and the size in its first warning is
not the one reported under that name. -/
theorem tagged_key_repeats_name :
    taggedTwice.keysDiffer = true ∧ Schema.ofValue taggedTwice = .ok repeatedSchema ∧
      (Schema.ofYaml "!t A: {a: u8}\nA: {a: u16}\n").toOption = some repeatedSchema ∧
      ¬ repeatedSchema.NamesDistinct ∧
      (∃ r ∈ repeatedSchema.records, repeatedSchema.record? r.name ≠ some r) ∧
      ∃ w ∈ (checkAlignment .resolve repeatedSchema).warnings,
        (checkAlignment .resolve repeatedSchema).recordSize? w.record ≠ some w.size := by
  exact ⟨by decide, rfl, by decide +kernel, by decide, by decide, by decide⟩

end MemMap
