import Mathlib.Data.List.Forall2
import MemMap.Loader

/-!
# MemMap.Proofs.Grammar

The documents that are schemas.

What a document has to look like is said here without a walk, by relations between values and
what they stand for: a value spells a text (`Value.Spells`), gives a field its type
(`Value.GivesType`), and from these two an entry describes a field or a record and a whole
document a schema (`DescribesField`, `DescribesRecord`, `Describes`). Tags are looked through
where a text stands for a name or under `type`, and nowhere else: a tagged document, a tagged
body, a tagged bare type and a tagged key `type` are none of these things.

* `ofValue_eq_ok_iff` — reading finds the schema that a document describes, and finds none
  otherwise;
* `exists_describes_iff` — which documents describe a schema at all;
* `ofValue_grammar` — the two together, and the error of every other document.
-/

namespace MemMap

open Yaml

/-! ## What values stand for -/

namespace Yaml.Value

/-- A value that spells a text: a string, under any number of tags. -/
inductive Spells : Value → String → Prop
  | string (text : String) : Spells (.string text) text
  | tagged {v : Value} {text : String} (tag : String) (h : Spells v text) :
      Spells (.tagged tag v) text

/-- A value that gives a field its type, by a token: a bare string, or a mapping whose first
entry under the bare string `type` spells the token. -/
inductive GivesType : Value → String → Prop
  | bare (token : String) : GivesType (.string token) token
  | keyed {before after : List (Value × Value)} {v : Value} {token : String}
      (first : ∀ e ∈ before, e.1 ≠ .string "type") (h : v.Spells token) :
      GivesType (.mapping (before ++ (.string "type", v) :: after)) token

theorem text?_eq_some_iff {v : Value} {text : String} : v.text? = some text ↔ v.Spells text := by
  constructor
  · intro h
    fun_induction text? v with
    | case1 s =>
        obtain rfl := Option.some.inj h
        exact .string s
    | case2 tag v ih => exact .tagged tag (ih h)
    | case3 => simp at h
  · intro h
    induction h with
    | string text => rfl
    | tagged tag _ ih => simpa [text?] using ih

theorem isString_eq_true_iff {v : Value} {text : String} :
    v.isString text = true ↔ v = .string text := by
  cases v <;> simp [isString]

/-- What is found under a key is the value of the first entry of that key. -/
theorem attribute?_eq_some_iff {entries : List (Value × Value)} {key : String} {v : Value} :
    attribute? entries key = some v ↔
      ∃ before after, entries = before ++ (.string key, v) :: after ∧
        ∀ e ∈ before, e.1 ≠ .string key := by
  simp only [attribute?, Option.map_eq_some_iff, List.find?_eq_some_iff_append,
    isString_eq_true_iff, Bool.not_eq_true', ← Bool.not_eq_true]
  constructor
  · rintro ⟨⟨k, w⟩, ⟨rfl, before, after, rfl, hfirst⟩, rfl⟩
    exact ⟨before, after, rfl, hfirst⟩
  · rintro ⟨before, after, rfl, hfirst⟩
    exact ⟨(.string key, v), ⟨rfl, before, after, rfl, hfirst⟩, rfl⟩

end Yaml.Value

/-! ## What documents describe -/

/-- An entry of a body with the field it describes. -/
inductive DescribesField : Value × Value → Field → Prop
  | mk {key spec : Value} {name token : String} (hname : key.Spells name)
      (htype : spec.GivesType token) : DescribesField (key, spec) ⟨name, .parse token⟩

/-- An entry of a document with the record it describes, one field for each entry of the
body, in order. -/
inductive DescribesRecord : Value × Value → Record → Prop
  | mk {key : Value} {name : String} {body : List (Value × Value)} {fields : List Field}
      (hname : key.Spells name) (hfields : List.Forall₂ DescribesField body fields) :
      DescribesRecord (key, .mapping body) ⟨name, fields⟩

/-- A document with the schema it describes, one record for each entry, in order. -/
inductive Describes : Value → Schema → Prop
  | mk {entries : List (Value × Value)} {records : List Record}
      (h : List.Forall₂ DescribesRecord entries records) :
      Describes (.mapping entries) ⟨records⟩

/-! ## Reading finds what is described -/

theorem Walk.result_bind_eq_ok_iff {α β : Type} {w : Walk α} {next : α → Walk β} {b : β} :
    (w >>= next).result = .ok b ↔ ∃ a, w.result = .ok a ∧ (next a).result = .ok b := by
  rw [result_bind]
  cases w.result <;> simp [Except.bind]

theorem result_readName_eq_ok_iff {role : NameRole} {key : Value} {name : String} :
    (readName role key).result = .ok name ↔ key.Spells name := by
  rw [← Value.text?_eq_some_iff, readName]
  cases key.text? <;> simp [Walk.done, Walk.fail]

/-- The type of a mapping, whether or not further keys are noted on the way. -/
theorem result_readType_mapping (record field : String) (attributes : List (Value × Value)) :
    (readType record field (.mapping attributes)).result =
      match (Value.attribute? attributes "type").bind Value.text? with
      | some token => .ok token
      | none => .error (.missingType record field) := by
  rw [readType]
  cases (Value.attribute? attributes "type").bind Value.text? with
  | none => rfl
  | some token =>
      dsimp only
      split
      · rfl
      · rw [Walk.result_bind]
        rfl

theorem result_readType_eq_ok_iff {record field : String} {spec : Value} {token : String} :
    (readType record field spec).result = .ok token ↔ spec.GivesType token := by
  constructor
  · intro h
    cases spec with
    | string t =>
        obtain rfl : t = token := by simpa [readType, Walk.done] using h
        exact .bare t
    | mapping attributes =>
        rw [result_readType_mapping] at h
        cases hfound : (Value.attribute? attributes "type").bind Value.text? with
        | none => simp [hfound] at h
        | some t =>
            obtain rfl : t = token := by simpa [hfound] using h
            obtain ⟨v, hv, htext⟩ := Option.bind_eq_some_iff.mp hfound
            obtain ⟨before, after, rfl, hfirst⟩ := Value.attribute?_eq_some_iff.mp hv
            exact .keyed hfirst (Value.text?_eq_some_iff.mp htext)
    | _ => simp [readType, Walk.fail] at h
  · intro h
    cases h with
    | bare => rfl
    | @keyed before after v _ hfirst hv =>
        have hfound : Value.attribute? (before ++ (.string "type", v) :: after) "type" = some v :=
          Value.attribute?_eq_some_iff.mpr ⟨before, after, rfl, hfirst⟩
        rw [result_readType_mapping, hfound, Option.bind_some, Value.text?_eq_some_iff.mpr hv]

theorem result_readField_eq_ok_iff {record : String} {entry : Value × Value} {f : Field} :
    (readField record entry).result = .ok f ↔ DescribesField entry f := by
  simp only [readField, Walk.result_bind_eq_ok_iff, result_readName_eq_ok_iff,
    result_readType_eq_ok_iff, Walk.result_pure, Except.ok.injEq]
  constructor
  · rintro ⟨name, hname, token, htype, rfl⟩
    exact .mk hname htype
  · rintro ⟨hname, htype⟩
    exact ⟨_, hname, _, htype, rfl⟩

/-- **Lists of entries.** A walk that reads entries one after another finds, for each of
them in order, what reading that entry finds. -/
theorem ReadsInOrder.result_eq_ok_iff {α β : Type} {read : α → Walk β}
    {reads : List α → Walk (List β)} {R : α → β → Prop} (h : ReadsInOrder read reads)
    (hread : ∀ a b, (read a).result = .ok b ↔ R a b) {as : List α} {bs : List β} :
    (reads as).result = .ok bs ↔ List.Forall₂ R as bs := by
  induction as generalizing bs with
  | nil => simp [h.nil, eq_comm]
  | cons a as ih =>
      simp only [h.cons, Walk.result_bind_eq_ok_iff, Walk.result_pure, Except.ok.injEq, hread, ih,
        List.forall₂_cons_left_iff]
      constructor
      · rintro ⟨b, hb, bs, hbs, rfl⟩
        exact ⟨b, bs, hb, hbs, rfl⟩
      · rintro ⟨b, bs, hb, hbs, rfl⟩
        exact ⟨b, hb, bs, hbs, rfl⟩

theorem result_readFields_eq_ok_iff {record : String} {body : List (Value × Value)}
    {fields : List Field} :
    (readFields record body).result = .ok fields ↔ List.Forall₂ DescribesField body fields :=
  (readsInOrder_readFields record).result_eq_ok_iff fun _ _ => result_readField_eq_ok_iff

theorem result_readRecord_eq_ok_iff {entry : Value × Value} {r : Record} :
    (readRecord entry).result = .ok r ↔ DescribesRecord entry r := by
  obtain ⟨key, value⟩ := entry
  simp only [readRecord, Walk.result_bind_eq_ok_iff, result_readName_eq_ok_iff,
    Walk.result_pure, Except.ok.injEq]
  constructor
  · rintro ⟨name, hname, fields, hfields, rfl⟩
    cases value with
    | mapping body => exact .mk hname (result_readFields_eq_ok_iff.mp hfields)
    | _ => simp [readBody, Walk.fail] at hfields
  · rintro ⟨hname, hfields⟩
    exact ⟨_, hname, _, result_readFields_eq_ok_iff.mpr hfields, rfl⟩

theorem result_readRecords_eq_ok_iff {entries : List (Value × Value)} {records : List Record} :
    (readRecords entries).result = .ok records ↔ List.Forall₂ DescribesRecord entries records :=
  readsInOrder_readRecords.result_eq_ok_iff fun _ _ => result_readRecord_eq_ok_iff

/-- **Reading finds what is described.** -/
theorem ofValue_eq_ok_iff {v : Value} {s : Schema} :
    Schema.ofValue v = .ok s ↔ Describes v s := by
  unfold Schema.ofValue
  constructor
  · intro h
    cases v with
    | mapping entries =>
        simp only [Schema.walk, Walk.result_bind_eq_ok_iff, Walk.result_pure, Except.ok.injEq,
          result_readRecords_eq_ok_iff] at h
        obtain ⟨records, hrecords, rfl⟩ := h
        exact .mk hrecords
    | _ => simp [Schema.walk, Walk.fail] at h
  · rintro ⟨hrecords⟩
    simp only [Schema.walk, Walk.result_bind_eq_ok_iff, Walk.result_pure, Except.ok.injEq,
      result_readRecords_eq_ok_iff]
    exact ⟨_, hrecords, rfl⟩

/-! ## Which documents describe a schema -/

namespace Yaml.Value

def IsText (v : Value) : Prop := ∃ text, v.Spells text

def IsType (v : Value) : Prop := ∃ token, v.GivesType token

/-- A bare mapping from texts to types. -/
def IsBody (v : Value) : Prop :=
  ∃ entries, v = .mapping entries ∧ ∀ e ∈ entries, e.1.IsText ∧ e.2.IsType

/-- A bare mapping from texts to bodies. -/
def IsDocument (v : Value) : Prop :=
  ∃ entries, v = .mapping entries ∧ ∀ e ∈ entries, e.1.IsText ∧ e.2.IsBody

end Yaml.Value

/-- A list is related to some list if each of its members is related to something. -/
theorem exists_forall₂_iff {α β : Type} {R : α → β → Prop} {as : List α} :
    (∃ bs, List.Forall₂ R as bs) ↔ ∀ a ∈ as, ∃ b, R a b := by
  induction as with
  | nil => simp
  | cons a as ih =>
      simp only [List.forall₂_cons_left_iff, List.forall_mem_cons, ← ih]
      constructor
      · rintro ⟨_, b, bs, hb, hbs, rfl⟩
        exact ⟨⟨b, hb⟩, bs, hbs⟩
      · rintro ⟨⟨b, hb⟩, bs, hbs⟩
        exact ⟨b :: bs, b, bs, hb, hbs, rfl⟩

theorem exists_describesField_iff {entry : Value × Value} :
    (∃ f, DescribesField entry f) ↔ entry.1.IsText ∧ entry.2.IsType := by
  constructor
  · rintro ⟨_, hname, htype⟩
    exact ⟨⟨_, hname⟩, _, htype⟩
  · rintro ⟨⟨_, hname⟩, _, htype⟩
    exact ⟨_, .mk hname htype⟩

theorem exists_describesRecord_iff {entry : Value × Value} :
    (∃ r, DescribesRecord entry r) ↔ entry.1.IsText ∧ entry.2.IsBody := by
  obtain ⟨key, value⟩ := entry
  simp only [Value.IsBody, ← exists_describesField_iff, ← exists_forall₂_iff]
  constructor
  · rintro ⟨_, hname, hfields⟩
    exact ⟨⟨_, hname⟩, _, rfl, _, hfields⟩
  · rintro ⟨⟨_, hname⟩, _, rfl, _, hfields⟩
    exact ⟨_, .mk hname hfields⟩

theorem exists_describes_iff {v : Value} : (∃ s, Describes v s) ↔ v.IsDocument := by
  simp only [Value.IsDocument, ← exists_describesRecord_iff, ← exists_forall₂_iff]
  constructor
  · rintro ⟨_, ⟨hrecords⟩⟩
    exact ⟨_, rfl, _, hrecords⟩
  · rintro ⟨_, rfl, _, hrecords⟩
    exact ⟨_, .mk hrecords⟩

instance (v : Value) : Decidable v.IsDocument :=
  match h : Schema.ofValue v with
  | .ok s => .isTrue (exists_describes_iff.mp ⟨s, ofValue_eq_ok_iff.mp h⟩)
  | .error f => .isFalse fun hv => by
      obtain ⟨s, hs⟩ := exists_describes_iff.mpr hv
      rw [ofValue_eq_ok_iff.mpr hs] at h
      cases h

/-- **The grammar of schemas.** A document is read if and only if it is a bare mapping from
texts to bare mappings from texts to types. What is then read is the schema it describes:
one record for each entry, one field for each entry of its body, in order, named by the
texts and typed by the tokens. Every other document is an invalid schema. -/
theorem ofValue_grammar (v : Value) :
    ((∃ s, Schema.ofValue v = .ok s) ↔ v.IsDocument) ∧
      (∀ s, Schema.ofValue v = .ok s ↔ Describes v s) ∧
      ((∃ f, (Schema.ofValue v).mapError Error.invalidSchema = .error (.invalidSchema f)) ↔
        ¬ v.IsDocument) := by
  have hread : (∃ s, Schema.ofValue v = .ok s) ↔ v.IsDocument := by
    simp only [ofValue_eq_ok_iff, exists_describes_iff]
  refine ⟨hread, fun s => ofValue_eq_ok_iff, ?_⟩
  rw [← hread]
  cases Schema.ofValue v <;> simp [Except.mapError]

/-- Tags do no harm to a name and to what stands under `type`, but they do to a body. -/
example :
    (Value.mapping [(.tagged "!a" (.string "R"), .mapping [(.string "x",
      .mapping [(.string "type", .tagged "!b" (.string "u8"))])])]).IsDocument ∧
    ¬ (Value.mapping [(.string "R", .tagged "!a" (.mapping []))]).IsDocument := by
  decide

end MemMap
