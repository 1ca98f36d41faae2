import MemMap.Proofs.FirstFault

/-!
# MemMap.Proofs.Notes

What is noted on the way through a document.

One thing is noted: that the mapping of a field has string keys besides `type`. It is noted
where the field is read, so in document order, and only if the field can be read. Reading
stops at the first fault; what was noted before it stays. So the notes of a document are those
of its entries up to the first that is no record, that one included, for some of its fields
may have been read; and those of an entry are those of its fields up to the first that is none
(`upToFault`). Nothing else is noted, and nothing at all of a document that is no mapping.

* `ReadsInOrder.notes` — the notes of a list of entries;
* `notes_walk` — the notes of a document, told without a walk.
-/

namespace MemMap

open Yaml

/-! ## Deciding what a value is -/

instance (v : Value) : Decidable v.IsText :=
  match h : v.text? with
  | some text => .isTrue ⟨text, Value.text?_eq_some_iff.mp h⟩
  | none => .isFalse fun ⟨text, hv⟩ => by
      rw [Value.text?_eq_some_iff.mpr hv] at h
      cases h

instance (v : Value) : Decidable v.IsType :=
  match h : (readType "" "" v).result with
  | .ok token => .isTrue ⟨token, result_readType_eq_ok_iff.mp h⟩
  | .error f => .isFalse fun ⟨token, hv⟩ => by
      rw [result_readType_eq_ok_iff.mpr hv] at h
      cases h

/-- Whether an entry of a body can be read as a field. -/
def IsFieldEntry (e : Value × Value) : Prop := e.1.IsText ∧ e.2.IsType

instance (e : Value × Value) : Decidable (IsFieldEntry e) :=
  inferInstanceAs (Decidable (_ ∧ _))

instance (v : Value) : Decidable v.IsBody :=
  match v with
  | .mapping entries =>
    if h : ∀ e ∈ entries, IsFieldEntry e then .isTrue ⟨entries, rfl, h⟩
    else .isFalse fun ⟨_, heq, hall⟩ => by
      cases heq
      exact h hall
  | .null | .bool _ | .number _ | .string _ | .sequence _ | .tagged .. =>
    .isFalse fun ⟨_, heq, _⟩ => by cases heq

/-- Whether an entry of a document can be read as a record. -/
def IsRecordEntry (e : Value × Value) : Prop := e.1.IsText ∧ e.2.IsBody

instance (e : Value × Value) : Decidable (IsRecordEntry e) :=
  inferInstanceAs (Decidable (_ ∧ _))

/-! ## What there is to note -/

/-- The members of a list up to the first that is at fault, that one included. -/
def upToFault {α : Type} (fine : α → Prop) [DecidablePred fine] (as : List α) : List α :=
  as.takeWhile fine ++ (as.dropWhile fine).take 1

theorem upToFault_cons {α : Type} (fine : α → Prop) [DecidablePred fine] (a : α)
    (as : List α) :
    upToFault fine (a :: as) = if fine a then a :: upToFault fine as else [a] := by
  by_cases ha : fine a <;> simp [upToFault, ha]

/-- The note on an entry of a body: its further keys, if it is a field that has any. -/
def fieldNotes (record : String) : Value × Value → List LogEvent
  | (key, .mapping attributes) =>
    match key.text? with
    | some field =>
      if (Value.mapping attributes).IsType ∧ extraKeys attributes ≠ [] then
        [.extraAttributes record field (extraKeys attributes)]
      else []
    | none => []
  | _ => []

/-- The notes on an entry of a document: those on its fields, up to the first fault. -/
def recordNotes : Value × Value → List LogEvent
  | (key, .mapping body) =>
    match key.text? with
    | some record => (upToFault IsFieldEntry body).flatMap (fieldNotes record)
    | none => []
  | _ => []

/-- The notes on a document: those on its entries, up to the first fault. -/
def documentNotes : Value → List LogEvent
  | .mapping entries => (upToFault IsRecordEntry entries).flatMap recordNotes
  | _ => []

/-! ## What is noted -/

namespace Walk

variable {α β : Type}

@[simp]
theorem notes_pure (a : α) : (pure a : Walk α).notes = [] := rfl

/-- Nothing is noted when a result is put into another form. -/
theorem notes_bind_pure (w : Walk α) (g : α → β) : (w >>= fun a => pure (g a)).notes = w.notes := by
  cases h : w.result with
  | ok a => rw [notes_bind_ok h, notes_pure, List.append_nil]
  | error f => rw [notes_bind_error h]

end Walk

/-- **Lists of entries.** A walk that reads entries one after another notes what reading each
of them notes, up to the first fault. -/
theorem ReadsInOrder.notes {α β : Type} {read : α → Walk β} {reads : List α → Walk (List β)}
    {fine : α → Prop} [DecidablePred fine] (h : ReadsInOrder read reads)
    (hread : ∀ a, (∃ b, (read a).result = .ok b) ↔ fine a) (as : List α) :
    (reads as).notes = (upToFault fine as).flatMap fun a => (read a).notes := by
  induction as with
  | nil =>
      rw [h.nil]
      rfl
  | cons a as ih =>
      rw [h.cons, upToFault_cons]
      cases hresult : (read a).result with
      | ok b =>
          have ha : fine a := (hread a).mp ⟨b, hresult⟩
          rw [Walk.notes_bind_ok hresult, Walk.notes_bind_pure, ih, if_pos ha,
            List.flatMap_cons]
      | error f =>
          have ha : ¬ fine a := by
            rw [← hread a, hresult]
            simp
          rw [Walk.notes_bind_error hresult, if_neg ha, List.flatMap_singleton]

/-- A key is read without a note. -/
theorem notes_readName_bind {α : Type} (role : NameRole) (key : Value)
    (next : String → Walk α) :
    (readName role key >>= next).notes =
      match key.text? with
      | some name => (next name).notes
      | none => [] := by
  rw [readName]
  cases key.text? with
  | none => exact Walk.notes_bind_error rfl next
  | some name => exact Walk.notes_bind_ok rfl next

/-- A type is noted if it is a mapping that gives one and has further keys. -/
theorem notes_readType_mapping (record field : String) (attributes : List (Value × Value)) :
    (readType record field (.mapping attributes)).notes =
      if (Value.mapping attributes).IsType ∧ extraKeys attributes ≠ [] then
        [.extraAttributes record field (extraKeys attributes)]
      else [] := by
  have htype : (Value.mapping attributes).IsType ↔
      ∃ token, (Value.attribute? attributes "type").bind Value.text? = some token := by
    rw [isType_iff record field, result_readType_mapping]
    cases (Value.attribute? attributes "type").bind Value.text? <;> simp
  rw [readType]
  cases hfound : (Value.attribute? attributes "type").bind Value.text? with
  | none =>
      have hno : ¬ (Value.mapping attributes).IsType := by simp [htype, hfound]
      rw [if_neg fun h => hno h.1]
      rfl
  | some token =>
      have hyes : (Value.mapping attributes).IsType := htype.mpr ⟨token, hfound⟩
      by_cases hextra : extraKeys attributes = []
      · rw [if_neg fun h => h.2 hextra]
        simp [hextra, Walk.done]
      · rw [if_pos ⟨hyes, hextra⟩]
        simp only [List.isEmpty_iff, if_neg hextra]
        rfl

/-- **One field.** -/
theorem notes_readField (record : String) (e : Value × Value) :
    (readField record e).notes = fieldNotes record e := by
  obtain ⟨key, spec⟩ := e
  simp only [readField, notes_readName_bind, Walk.notes_bind_pure]
  cases spec with
  | mapping attributes => simp only [notes_readType_mapping, fieldNotes]
  | _ => cases key.text? <;> rfl

theorem notes_readFields (record : String) (body : List (Value × Value)) :
    (readFields record body).notes =
      (upToFault IsFieldEntry body).flatMap (fieldNotes record) := by
  have hread : ∀ e, (∃ f, (readField record e).result = .ok f) ↔ IsFieldEntry e := by
    intro e
    simp only [result_readField_eq_ok_iff]
    exact exists_describesField_iff
  have h := (readsInOrder_readFields record).notes hread body
  simpa only [notes_readField] using h

/-- **One record.** -/
theorem notes_readRecord (e : Value × Value) : (readRecord e).notes = recordNotes e := by
  obtain ⟨key, value⟩ := e
  simp only [readRecord, notes_readName_bind, Walk.notes_bind_pure]
  cases value with
  | mapping body => simp only [readBody, notes_readFields, recordNotes]
  | _ => cases key.text? <;> rfl

theorem notes_readRecords (entries : List (Value × Value)) :
    (readRecords entries).notes = (upToFault IsRecordEntry entries).flatMap recordNotes := by
  have hread : ∀ e, (∃ r, (readRecord e).result = .ok r) ↔ IsRecordEntry e := by
    intro e
    simp only [result_readRecord_eq_ok_iff]
    exact exists_describesRecord_iff
  have h := readsInOrder_readRecords.notes hread entries
  simpa only [notes_readRecord] using h

/-- **Documents.** What is noted of a document is what there is to note. -/
theorem notes_walk (v : Value) : (Schema.walk v).notes = documentNotes v := by
  cases v with
  | mapping entries =>
      rw [Schema.walk, Walk.notes_bind_pure]
      exact notes_readRecords entries
  | _ => rfl

/-- Only what is read is noted: not the record at fault behind its fault, and nothing after
it. -/
example :
    (documentNotes (.mapping [(.string "A", .mapping
        [(.string "x", .mapping [(.string "size", .null), (.string "type", .string "u8")])]),
      (.string "B", .mapping
        [(.string "y", .mapping [(.string "type", .string "u8"), (.string "at", .null)]),
          (.string "z", .null),
          (.string "w", .mapping [(.string "type", .string "u8"), (.string "at", .null)])]),
      (.string "C", .mapping
        [(.string "x", .mapping [(.string "size", .null), (.string "type", .string "u8")])])])) =
      [.extraAttributes "A" "x" ["size"], .extraAttributes "B" "y" ["at"]] := rfl

end MemMap
