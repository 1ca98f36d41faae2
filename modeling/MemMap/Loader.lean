import MemMap.Log
import MemMap.Schema
import MemMap.Yaml.Construct

/-!
# MemMap.Loader

From a YAML value to a schema. The document is a mapping of record names to mappings of
field names to field types; a type is a string, or a mapping with a string under `type`
whose other keys are noted and ignored.

The walk goes through the document in order, a key before its value, and stops at the first
fault. What it notes on the way is kept even then (`Walk`).

* `Walk.result_bind` — the result of a walk does not depend on its notes;
* `ReadsInOrder.append` — a walk through a list in two parts is a walk through the first, and
  then, if that succeeds, through the second.
-/

namespace MemMap

open Yaml

/-! ## Walks -/

/-- What was noted on a walk, and how it ended. -/
structure Walk (α : Type) where
  notes : List LogEvent
  result : Except SchemaFault α

namespace Walk

variable {α β : Type}

/-- A walk that ends at once with a result. -/
def done (a : α) : Walk α := ⟨[], .ok a⟩

/-- A walk that ends at once with a fault. -/
def fail (f : SchemaFault) : Walk α := ⟨[], .error f⟩

/-- A walk that notes one event. -/
def note (e : LogEvent) : Walk Unit := ⟨[e], .ok ()⟩

/-- Go on from where a walk ended, unless it ended with a fault. -/
def andThen (w : Walk α) (next : α → Walk β) : Walk β :=
  match w.result with
  | .ok a => ⟨w.notes ++ (next a).notes, (next a).result⟩
  | .error f => ⟨w.notes, .error f⟩

instance : Monad Walk where
  pure := done
  bind := andThen

@[simp]
theorem result_pure (a : α) : (pure a : Walk α).result = .ok a := rfl

/-- **Notes do not matter.** The result of a walk in two parts is made from the results of
its parts. -/
@[simp]
theorem result_bind (w : Walk α) (next : α → Walk β) :
    (w >>= next).result = w.result.bind fun a => (next a).result := by
  show (andThen w next).result = _
  unfold andThen
  cases w.result <;> rfl

theorem notes_bind_ok {w : Walk α} {a : α} (h : w.result = .ok a) (next : α → Walk β) :
    (w >>= next).notes = w.notes ++ (next a).notes := by
  show (andThen w next).notes = _
  simp [andThen, h]

theorem notes_bind_error {w : Walk α} {f : SchemaFault} (h : w.result = .error f)
    (next : α → Walk β) : (w >>= next).notes = w.notes := by
  show (andThen w next).notes = _
  simp [andThen, h]

theorem andThen_done (w : Walk α) : w.andThen done = w := by
  cases w with
  | mk notes result => cases result <;> simp [andThen, done]

theorem done_andThen (a : α) (f : α → Walk β) : (done a).andThen f = f a := by
  simp [andThen, done]

/-- The parts of a walk may be grouped either way. -/
theorem andThen_assoc {γ : Type} (w : Walk α) (f : α → Walk β) (g : β → Walk γ) :
    (w.andThen f).andThen g = w.andThen fun a => (f a).andThen g := by
  cases w with
  | mk notes result =>
    cases result with
    | error e => rfl
    | ok a =>
      simp only [andThen]
      cases (f a).result <;> simp

instance : LawfulMonad Walk :=
  LawfulMonad.mk' Walk andThen_done done_andThen andThen_assoc

end Walk

/-! ## Fields and records -/

/-- A name in the document: a string, with or without tags. -/
def readName (role : NameRole) (key : Value) : Walk String :=
  match key.text? with
  | some name => .done name
  | none => .fail (.nameNotString role key)

/-- The string keys besides `type`, in order. -/
def extraKeys (attributes : List (Value × Value)) : List String :=
  (attributes.filterMap (·.1.text?)).filter (· ≠ "type")

/-- The type token of a field. -/
def readType (record field : String) : Value → Walk String
  | .string token => .done token
  | .mapping attributes =>
    match (Value.attribute? attributes "type").bind Value.text? with
    | some token =>
      if (extraKeys attributes).isEmpty then .done token
      else do
        Walk.note (.extraAttributes record field (extraKeys attributes))
        return token
    | none => .fail (.missingType record field)
  | _ => .fail (.notType record field)

/-- One field of a record. -/
def readField (record : String) (entry : Value × Value) : Walk Field := do
  let name ← readName .field entry.1
  let token ← readType record name entry.2
  return ⟨name, .parse token⟩

/-- The fields of a record, in order. -/
def readFields (record : String) : List (Value × Value) → Walk (List Field)
  | [] => .done []
  | entry :: rest => do
    let field ← readField record entry
    let fields ← readFields record rest
    return field :: fields

/-- The body of a record. -/
def readBody (record : String) : Value → Walk (List Field)
  | .mapping entries => readFields record entries
  | _ => .fail (.notFields record)

/-- One record. -/
def readRecord (entry : Value × Value) : Walk Record := do
  let name ← readName .record entry.1
  let fields ← readBody name entry.2
  return ⟨name, fields⟩

/-- The records of a document, in order. -/
def readRecords : List (Value × Value) → Walk (List Record)
  | [] => .done []
  | entry :: rest => do
    let record ← readRecord entry
    let records ← readRecords rest
    return record :: records

/-! ## Lists of entries -/

/-- A walk through a list that reads its members one after another, all in the same way. -/
structure ReadsInOrder {α β : Type} (read : α → Walk β) (reads : List α → Walk (List β)) :
    Prop where
  nil : reads [] = pure []
  cons : ∀ a as, reads (a :: as) = do
    let b ← read a
    let bs ← reads as
    return b :: bs

theorem readsInOrder_readFields (record : String) :
    ReadsInOrder (readField record) (readFields record) :=
  ⟨rfl, fun _ _ => rfl⟩

theorem readsInOrder_readRecords : ReadsInOrder readRecord readRecords :=
  ⟨rfl, fun _ _ => rfl⟩

/-- **Lists in parts.** The second part of a list is read after the first. -/
theorem ReadsInOrder.append {α β : Type} {read : α → Walk β} {reads : List α → Walk (List β)}
    (h : ReadsInOrder read reads) (as as' : List α) :
    reads (as ++ as') = do
      let bs ← reads as
      let bs' ← reads as'
      return bs ++ bs' := by
  induction as with
  | nil => simp [h.nil]
  | cons a as ih => simp [h.cons, ih]

/-! ## Schemas -/

namespace Schema

/-- The schema of a document, with what was noted on the way. -/
def walk : Value → Walk Schema
  | .mapping entries => do return ⟨← readRecords entries⟩
  | .null => .fail .emptyDocument
  | _ => .fail .notRecords

/-- The schema of a document. -/
def ofValue (document : Value) : Except SchemaFault Schema :=
  (walk document).result

/-- The schema of a YAML text, with what was noted on the way. -/
def walkText (text : String) : List LogEvent × Except Error Schema :=
  match Value.ofText text with
  | .ok document =>
    let w := walk document
    (w.notes, w.result.mapError .invalidSchema)
  | .error f => ([], .error (.yaml f))

/-- The schema of a YAML text. -/
def ofYaml (text : String) : Except Error Schema :=
  (walkText text).2

end Schema

end MemMap
