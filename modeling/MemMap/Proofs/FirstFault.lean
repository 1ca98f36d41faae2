import MemMap.Proofs.Grammar

/-!
# MemMap.Proofs.FirstFault

Which fault of a document is reported.

A document is read entry by entry, and so is the body of a record; within an entry the key
comes before what stands under it. Reading stops at the first fault on this way. So a document
in two parts is read as its first part, and then, if that is no fault, as its second; and what
stands after a fault has no say in the report of it.

What makes an entry faulty is said here without a walk, as `MemMap.Proofs.Grammar` does for
what an entry describes (`FieldFault`, `RecordFault`), and the first fault of a list of entries
by what its members describe and where one does not (`FirstFault`).

* `ofValue_append`, `result_readRecord_append` — documents and records in two parts;
* `ofValue_eq_error_iff` — the fault that is reported of a document;
* `first_fault_wins` — how the faults of a document compete.
-/

namespace MemMap

open Yaml

/-! ## Documents in parts -/

theorem ReadsInOrder.result_append {α β : Type} {read : α → Walk β}
    {reads : List α → Walk (List β)} (h : ReadsInOrder read reads) (as as' : List α) :
    (reads (as ++ as')).result = do
      let bs ← (reads as).result
      let bs' ← (reads as').result
      return bs ++ bs' := by
  simp only [h.append, Walk.result_bind]
  rfl

theorem result_readFields_append (record : String) (a b : List (Value × Value)) :
    (readFields record (a ++ b)).result = do
      return (← (readFields record a).result) ++ (← (readFields record b).result) :=
  (readsInOrder_readFields record).result_append a b

theorem result_readRecords_append (a b : List (Value × Value)) :
    (readRecords (a ++ b)).result = do
      return (← (readRecords a).result) ++ (← (readRecords b).result) :=
  readsInOrder_readRecords.result_append a b

theorem ofValue_mapping (entries : List (Value × Value)) :
    Schema.ofValue (.mapping entries) = do return ⟨← (readRecords entries).result⟩ := by
  rw [Schema.ofValue, Schema.walk, Walk.result_bind]
  rfl

/-- **Documents in two parts.** -/
theorem ofValue_append (a b : List (Value × Value)) :
    Schema.ofValue (.mapping (a ++ b)) = do
      let s ← Schema.ofValue (.mapping a)
      let t ← Schema.ofValue (.mapping b)
      return ⟨s.records ++ t.records⟩ := by
  simp only [ofValue_mapping, result_readRecords_append]
  cases (readRecords a).result with
  | error fault => rfl
  | ok records => cases (readRecords b).result <;> rfl

theorem ofValue_singleton (entry : Value × Value) :
    Schema.ofValue (.mapping [entry]) = do return ⟨[← (readRecord entry).result]⟩ := by
  rw [ofValue_mapping, readRecords, Walk.result_bind]
  cases (readRecord entry).result <;> rfl

/-- The record of an entry whose key spells a name. -/
theorem result_readRecord {key : Value} {name : String} (h : key.Spells name) (body : Value) :
    (readRecord (key, body)).result = do return ⟨name, ← (readBody name body).result⟩ := by
  rw [readRecord, Walk.result_bind, result_readName_eq_ok_iff.mpr h]
  show (readBody name body >>= fun fields => pure (Record.mk name fields)).result = _
  rw [Walk.result_bind]
  rfl

/-- A key that is no text is the fault of its entry, whatever stands under it. -/
theorem result_readName_of_not_isText {key : Value} (role : NameRole) (h : ¬ key.IsText) :
    (readName role key).result = .error (.nameNotString role key) := by
  rw [readName]
  split
  next name htext => exact absurd ⟨name, Value.text?_eq_some_iff.mp htext⟩ h
  next => rfl

theorem result_readRecord_of_not_isText {key : Value} (h : ¬ key.IsText) (body : Value) :
    (readRecord (key, body)).result = .error (.nameNotString .record key) := by
  rw [readRecord, Walk.result_bind, result_readName_of_not_isText .record h]
  rfl

theorem result_readField_of_not_isText {key : Value} (h : ¬ key.IsText) (record : String)
    (spec : Value) :
    (readField record (key, spec)).result = .error (.nameNotString .field key) := by
  rw [readField, Walk.result_bind, result_readName_of_not_isText .field h]
  rfl

/-- **Records in two parts.** -/
theorem result_readRecord_append (key : Value) (a b : List (Value × Value)) :
    (readRecord (key, .mapping (a ++ b))).result = do
      let r ← (readRecord (key, .mapping a)).result
      let q ← (readRecord (key, .mapping b)).result
      return ⟨r.name, r.fields ++ q.fields⟩ := by
  by_cases hkey : key.IsText
  · obtain ⟨name, hname⟩ := hkey
    simp only [result_readRecord hname, readBody, result_readFields_append]
    cases (readFields name a).result with
    | error fault => rfl
    | ok fields => cases (readFields name b).result <;> rfl
  · simp only [result_readRecord_of_not_isText hkey]
    rfl

/-! ## Faults of single entries -/

/-- A value that gives a field no type: a mapping without a token under `type`, or neither a
string nor a mapping. -/
inductive TypeFault (record field : String) : Value → SchemaFault → Prop
  | missing {attributes : List (Value × Value)} (h : ¬ (Value.mapping attributes).IsType) :
      TypeFault record field (.mapping attributes) (.missingType record field)
  | other {v : Value} (hstring : ∀ s, v ≠ .string s) (hmapping : ∀ entries, v ≠ .mapping entries) :
      TypeFault record field v (.notType record field)

/-- The fault of an entry of a body. The value is at fault only where the key is not. -/
inductive FieldFault (record : String) : Value × Value → SchemaFault → Prop
  | key {key spec : Value} (h : ¬ key.IsText) :
      FieldFault record (key, spec) (.nameNotString .field key)
  | type {key spec : Value} {name : String} {fault : SchemaFault} (hname : key.Spells name)
      (h : TypeFault record name spec fault) : FieldFault record (key, spec) fault

/-- The first fault of a list: that of its first member which is not related to anything. -/
inductive FirstFault {α β : Type} (R : α → β → Prop) (Faulty : α → SchemaFault → Prop) :
    List α → SchemaFault → Prop
  | here {a : α} {as : List α} {fault : SchemaFault} (h : Faulty a fault) :
      FirstFault R Faulty (a :: as) fault
  | later {a : α} {b : β} {as : List α} {fault : SchemaFault} (h : R a b)
      (hrest : FirstFault R Faulty as fault) : FirstFault R Faulty (a :: as) fault

/-- The fault of the body of a record: it is no mapping, or the first fault of its entries. -/
inductive BodyFault (record : String) : Value → SchemaFault → Prop
  | other {v : Value} (hmapping : ∀ entries, v ≠ .mapping entries) :
      BodyFault record v (.notFields record)
  | field {entries : List (Value × Value)} {fault : SchemaFault}
      (h : FirstFault DescribesField (FieldFault record) entries fault) :
      BodyFault record (.mapping entries) fault

/-- The fault of an entry of a document. The body is at fault only where the key is not. -/
inductive RecordFault : Value × Value → SchemaFault → Prop
  | key {key body : Value} (h : ¬ key.IsText) :
      RecordFault (key, body) (.nameNotString .record key)
  | body {key body : Value} {name : String} {fault : SchemaFault} (hname : key.Spells name)
      (h : BodyFault name body fault) : RecordFault (key, body) fault

/-- The fault of a document: it is no mapping, or the first fault of its entries. -/
inductive DocumentFault : Value → SchemaFault → Prop
  | empty : DocumentFault .null .emptyDocument
  | other {v : Value} (hnull : v ≠ .null) (hmapping : ∀ entries, v ≠ .mapping entries) :
      DocumentFault v .notRecords
  | record {entries : List (Value × Value)} {fault : SchemaFault}
      (h : FirstFault DescribesRecord RecordFault entries fault) :
      DocumentFault (.mapping entries) fault

/-- The entries up to the first fault decide on it. -/
theorem firstFault_iff {α β : Type} {R : α → β → Prop} {Faulty : α → SchemaFault → Prop}
    {as : List α} {fault : SchemaFault} :
    FirstFault R Faulty as fault ↔ ∃ before a after, as = before ++ a :: after ∧
      (∃ bs, List.Forall₂ R before bs) ∧ Faulty a fault := by
  constructor
  · intro h
    induction h with
    | here h => exact ⟨[], _, _, rfl, ⟨[], .nil⟩, h⟩
    | later hab _ ih =>
        obtain ⟨before, a, after, rfl, ⟨bs, hbs⟩, ha⟩ := ih
        exact ⟨_ :: before, a, after, rfl, ⟨_ :: bs, .cons hab hbs⟩, ha⟩
  · rintro ⟨before, a, after, rfl, ⟨bs, hbs⟩, ha⟩
    induction hbs with
    | nil => exact .here ha
    | cons hab _ ih => exact .later hab ih

/-! ## Reading reports the first fault -/

theorem Walk.result_bind_eq_error_iff {α β : Type} {w : Walk α} {next : α → Walk β}
    {fault : SchemaFault} :
    (w >>= next).result = .error fault ↔
      w.result = .error fault ∨ ∃ a, w.result = .ok a ∧ (next a).result = .error fault := by
  rw [result_bind]
  cases w.result <;> simp [Except.bind]

theorem result_readName_eq_error_iff {role : NameRole} {key : Value} {fault : SchemaFault} :
    (readName role key).result = .error fault ↔
      ¬ key.IsText ∧ fault = .nameNotString role key := by
  by_cases hkey : key.IsText
  · obtain ⟨name, hname⟩ := hkey
    rw [result_readName_eq_ok_iff.mpr hname]
    simp [Value.IsText, show ∃ text, key.Spells text from ⟨name, hname⟩]
  · rw [result_readName_of_not_isText role hkey]
    simp [hkey, eq_comm]

theorem isType_iff (record field : String) {spec : Value} :
    spec.IsType ↔ ∃ token, (readType record field spec).result = .ok token := by
  simp only [result_readType_eq_ok_iff]
  rfl

theorem result_readType_eq_error_iff {record field : String} {spec : Value}
    {fault : SchemaFault} :
    (readType record field spec).result = .error fault ↔ TypeFault record field spec fault := by
  constructor
  · intro h
    cases spec with
    | string token => cases h
    | mapping attributes =>
        have hnone : ¬ (Value.mapping attributes).IsType := by
          rw [isType_iff record field, h]
          simp
        rw [result_readType_mapping] at h
        split at h
        next => cases h
        next =>
          obtain rfl := Except.error.inj h
          exact .missing hnone
    | _ =>
        obtain rfl := Except.error.inj h
        exact .other (by simp) (by simp)
  · intro h
    cases h with
    | missing hnone =>
        rw [isType_iff record field, result_readType_mapping] at hnone
        rw [result_readType_mapping]
        split
        next token htoken => simp [htoken] at hnone
        next => rfl
    | other hstring hmapping =>
        cases spec with
        | string token => exact absurd rfl (hstring token)
        | mapping attributes => exact absurd rfl (hmapping attributes)
        | _ => rfl

theorem result_readField_eq_error_iff {record : String} {entry : Value × Value}
    {fault : SchemaFault} :
    (readField record entry).result = .error fault ↔ FieldFault record entry fault := by
  obtain ⟨key, spec⟩ := entry
  simp only [readField, Walk.result_bind_eq_error_iff, result_readName_eq_error_iff,
    result_readName_eq_ok_iff, result_readType_eq_error_iff, Walk.result_pure]
  constructor
  · rintro (⟨hkey, rfl⟩ | ⟨name, hname, htype | ⟨_, _, himpossible⟩⟩)
    · exact .key hkey
    · exact .type hname htype
    · cases himpossible
  · intro h
    cases h with
    | key hkey => exact .inl ⟨hkey, rfl⟩
    | type hname htype => exact .inr ⟨_, hname, .inl htype⟩

/-- **Lists of entries.** A walk that reads entries one after another ends with the first
fault among them. -/
theorem ReadsInOrder.result_eq_error_iff {α β : Type} {read : α → Walk β}
    {reads : List α → Walk (List β)} {R : α → β → Prop} {Faulty : α → SchemaFault → Prop}
    (h : ReadsInOrder read reads) (hok : ∀ a b, (read a).result = .ok b ↔ R a b)
    (herror : ∀ a fault, (read a).result = .error fault ↔ Faulty a fault) {as : List α}
    {fault : SchemaFault} :
    (reads as).result = .error fault ↔ FirstFault R Faulty as fault := by
  induction as with
  | nil =>
      rw [h.nil]
      constructor
      · intro hfault
        cases hfault
      · intro hfault
        cases hfault
  | cons a as ih =>
      simp only [h.cons, Walk.result_bind_eq_error_iff, Walk.result_pure, hok, herror, ih]
      constructor
      · rintro (ha | ⟨b, hb, hrest | ⟨_, _, himpossible⟩⟩)
        · exact .here ha
        · exact .later hb hrest
        · cases himpossible
      · intro hfault
        cases hfault with
        | here ha => exact .inl ha
        | later hb hrest => exact .inr ⟨_, hb, .inl hrest⟩

theorem result_readBody_eq_error_iff {record : String} {body : Value} {fault : SchemaFault} :
    (readBody record body).result = .error fault ↔ BodyFault record body fault := by
  have hfields : ∀ entries, (readFields record entries).result = .error fault ↔
      FirstFault DescribesField (FieldFault record) entries fault := fun entries =>
    (readsInOrder_readFields record).result_eq_error_iff
      (fun _ _ => result_readField_eq_ok_iff) (fun _ _ => result_readField_eq_error_iff)
  constructor
  · intro h
    cases body with
    | mapping entries => exact .field ((hfields entries).mp h)
    | _ =>
        obtain rfl := Except.error.inj h
        exact .other (by simp)
  · intro h
    cases h with
    | field hentries => exact (hfields _).mpr hentries
    | other hmapping =>
        cases body with
        | mapping entries => exact absurd rfl (hmapping entries)
        | _ => rfl

theorem result_readRecord_eq_error_iff {entry : Value × Value} {fault : SchemaFault} :
    (readRecord entry).result = .error fault ↔ RecordFault entry fault := by
  obtain ⟨key, body⟩ := entry
  simp only [readRecord, Walk.result_bind_eq_error_iff, result_readName_eq_error_iff,
    result_readName_eq_ok_iff, result_readBody_eq_error_iff, Walk.result_pure]
  constructor
  · rintro (⟨hkey, rfl⟩ | ⟨name, hname, hbody | ⟨_, _, himpossible⟩⟩)
    · exact .key hkey
    · exact .body hname hbody
    · cases himpossible
  · intro h
    cases h with
    | key hkey => exact .inl ⟨hkey, rfl⟩
    | body hname hbody => exact .inr ⟨_, hname, .inl hbody⟩

theorem ofValue_mapping_eq_error_iff {entries : List (Value × Value)} {fault : SchemaFault} :
    Schema.ofValue (.mapping entries) = .error fault ↔
      FirstFault DescribesRecord RecordFault entries fault := by
  have hrecords : (readRecords entries).result = .error fault ↔
      FirstFault DescribesRecord RecordFault entries fault :=
    readsInOrder_readRecords.result_eq_error_iff
      (fun _ _ => result_readRecord_eq_ok_iff) (fun _ _ => result_readRecord_eq_error_iff)
  rw [← hrecords, Schema.ofValue, Schema.walk, Walk.result_bind_eq_error_iff]
  constructor
  · rintro (h | ⟨_, _, himpossible⟩)
    · exact h
    · cases himpossible
  · exact .inl

/-- **Reading reports the first fault.** -/
theorem ofValue_eq_error_iff {v : Value} {fault : SchemaFault} :
    Schema.ofValue v = .error fault ↔ DocumentFault v fault := by
  constructor
  · intro h
    cases v with
    | mapping entries => exact .record (ofValue_mapping_eq_error_iff.mp h)
    | null =>
        obtain rfl := Except.error.inj h
        exact .empty
    | _ =>
        obtain rfl := Except.error.inj h
        exact .other (by simp) (by simp)
  · intro h
    cases h with
    | empty => rfl
    | record hentries => exact ofValue_mapping_eq_error_iff.mpr hentries
    | other hnull hmapping =>
        cases v with
        | null => exact absurd rfl hnull
        | mapping entries => exact absurd rfl (hmapping entries)
        | _ => rfl

/-! ## What follows a fault -/

/-- Whether a document that begins with some entries and one more has a fault, whatever
follows. -/
def EndsAt (before : List (Value × Value)) (entry : Value × Value) (fault : SchemaFault) : Prop :=
  ∀ later, Schema.ofValue (.mapping (before ++ entry :: later)) = .error fault

theorem endsAt_of_recordFault {before : List (Value × Value)} {entry : Value × Value}
    {fault : SchemaFault} (hbefore : ∃ records, List.Forall₂ DescribesRecord before records)
    (h : RecordFault entry fault) : EndsAt before entry fault := by
  intro later
  have hfirst := firstFault_iff.mpr ⟨before, entry, later, rfl, hbefore, h⟩
  exact ofValue_mapping_eq_error_iff.mpr hfirst

/-- The fault of a body under a name is that of one of its fields, whatever follows it in the
body. -/
theorem exists_field_of_recordFault {key : Value} {body : List (Value × Value)}
    {fault : SchemaFault} (hkey : key.IsText) (h : RecordFault (key, .mapping body) fault) :
    ∃ front field back, body = front ++ field :: back ∧
      (∃ r, (readRecord (key, .mapping front)).result = .ok r) ∧
      ∀ more, RecordFault (key, .mapping (front ++ field :: more)) fault := by
  cases h with
  | key hno => exact absurd hkey hno
  | body hname hbody =>
      cases hbody with
      | other hmapping => exact absurd rfl (hmapping body)
      | field hfields =>
          obtain ⟨front, field, back, rfl, hfront, hfault⟩ := firstFault_iff.mp hfields
          refine ⟨front, field, back, rfl, ?_, fun more => ?_⟩
          · obtain ⟨fields, hdescribes⟩ := hfront
            exact ⟨_, result_readRecord_eq_ok_iff.mpr (.mk hname hdescribes)⟩
          · have hfirst := firstFault_iff.mpr ⟨front, field, more, rfl, hfront, hfault⟩
            exact .body hname (.field hfirst)

/-- **The first fault wins.** A document in two parts is read as its first part and then as its
second, and the fault of the first part, if any, is that of the whole; likewise the fields of
a record, which is read as if it were a document alone. Within an entry a key that is no text
is the fault, whatever stands under it. So where a document has a fault, it begins with
entries that are read and one more that decides, whatever follows; and if that one is a body
under a name, it begins with fields that are read and one more that decides, whatever follows
in the body and after it. -/
theorem first_fault_wins :
    (∀ a b, Schema.ofValue (.mapping (a ++ b)) = do
      let s ← Schema.ofValue (.mapping a)
      let t ← Schema.ofValue (.mapping b)
      return ⟨s.records ++ t.records⟩) ∧
    (∀ entry, Schema.ofValue (.mapping [entry]) = do return ⟨[← (readRecord entry).result]⟩) ∧
    (∀ key a b, (readRecord (key, .mapping (a ++ b))).result = do
      let r ← (readRecord (key, .mapping a)).result
      let q ← (readRecord (key, .mapping b)).result
      return ⟨r.name, r.fields ++ q.fields⟩) ∧
    (∀ key v, ¬ key.IsText →
      (readRecord (key, v)).result = .error (.nameNotString .record key) ∧
      ∀ record, (readField record (key, v)).result = .error (.nameNotString .field key)) ∧
    (∀ v fault, Schema.ofValue v = .error fault ↔ DocumentFault v fault) ∧
    ∀ entries fault, Schema.ofValue (.mapping entries) = .error fault →
      ∃ before key value after, entries = before ++ (key, value) :: after ∧
        (∃ s, Schema.ofValue (.mapping before) = .ok s) ∧ EndsAt before (key, value) fault ∧
        ∀ body, key.IsText → value = .mapping body →
          ∃ front field back, body = front ++ field :: back ∧
            (∃ r, (readRecord (key, .mapping front)).result = .ok r) ∧
            ∀ more, EndsAt before (key, .mapping (front ++ field :: more)) fault := by
  refine ⟨ofValue_append, ofValue_singleton, result_readRecord_append, fun key v hkey => ?_,
    fun v fault => ofValue_eq_error_iff, fun entries fault h => ?_⟩
  · exact ⟨result_readRecord_of_not_isText hkey v,
      fun record => result_readField_of_not_isText hkey record v⟩
  · have hfirst := ofValue_mapping_eq_error_iff.mp h
    obtain ⟨before, ⟨key, value⟩, after, rfl, hbefore, hentry⟩ := firstFault_iff.mp hfirst
    refine ⟨before, key, value, after, rfl, ?_, endsAt_of_recordFault hbefore hentry, ?_⟩
    · obtain ⟨records, hrecords⟩ := hbefore
      exact ⟨_, ofValue_eq_ok_iff.mpr (.mk hrecords)⟩
    · rintro body hkey rfl
      obtain ⟨front, field, back, rfl, hfront, hmore⟩ := exists_field_of_recordFault hkey hentry
      exact ⟨front, field, back, rfl, hfront,
        fun more => endsAt_of_recordFault hbefore (hmore more)⟩

/-- A document whose second record has a field that is no type, then one without a name, and
whose third record has no name. -/
def threeFaults : List (Value × Value) :=
  [(.string "A", .mapping [(.string "x", .string "u8")]),
    (.string "B", .mapping [(.string "y", .null), (.null, .string "u8")]),
    (.sequence [], .null)]

theorem first_fault_wins_three :
    Schema.ofValue (.mapping threeFaults) = .error (.notType "B" "y") ∧
      (readRecord (.sequence [], .null)).result =
        .error (.nameNotString .record (.sequence [])) ∧
      ∃ before key value, EndsAt before (key, value) (.notType "B" "y") := by
  obtain ⟨-, -, -, hkey, -, hfirst⟩ := first_fault_wins
  have hfault : Schema.ofValue (.mapping threeFaults) = .error (.notType "B" "y") := rfl
  have hsequence : ¬ (Value.sequence []).IsText := by rintro ⟨_, h⟩; cases h
  obtain ⟨before, key, value, -, -, -, hends, -⟩ := hfirst threeFaults _ hfault
  exact ⟨hfault, (hkey _ .null hsequence).1, before, key, value, hends⟩

end MemMap
