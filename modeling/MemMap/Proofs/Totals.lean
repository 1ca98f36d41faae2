import Mathlib.Algebra.GroupWithZero.Nat
import MemMap.Alignment

/-!
# MemMap.Proofs.Totals

Record sizes without a cap, and how the capped check follows them.

`packedTotal` adds field sizes in `Nat`, however large they grow, and `totalsFrom` threads
such totals through the records of a schema just as `measureFrom` threads the capped ones.
The check caps every partial sum and feeds capped sizes back into later records; that this
amounts to capping each exact total once is the content of this module:

* `packedSize_capped` — one record, given capped sizes of the earlier ones;
* `sizes_checkAlignment` — a whole check.

What a report says depends on its names and sizes only (`Report.sizes`), so a statement
about reports is a statement about exact totals, in which no sum is cut off.
-/

namespace MemMap

/-! ## Exact totals -/

/-- What a field of that type adds to the total of its record: nothing if its size is not
known. -/
def fieldTotal (policy : NestedSizing) (known : Sizes) (t : TypeToken) : Nat :=
  (fieldSize? policy known t).getD 0

/-- The sum of the field sizes, however large. -/
def packedTotal (policy : NestedSizing) (known : Sizes) (fields : List Field) : Nat :=
  (fields.map fun f => fieldTotal policy known f.type).sum

/-- Records with their totals, in order; each one is known to those after it. -/
def totalsFrom (policy : NestedSizing) : Sizes → List Record → Sizes
  | _, [] => []
  | known, r :: rest =>
    let total := packedTotal policy known r.fields
    (r.name, total) :: totalsFrom policy ((r.name, total) :: known) rest

/-- The records of a schema with their totals, in order. -/
def Schema.totals (policy : NestedSizing) (s : Schema) : Sizes :=
  totalsFrom policy [] s.records

@[simp] theorem packedTotal_nil (policy : NestedSizing) (known : Sizes) :
    packedTotal policy known [] = 0 := rfl

@[simp] theorem packedTotal_cons (policy : NestedSizing) (known : Sizes) (f : Field)
    (rest : List Field) : packedTotal policy known (f :: rest) =
      fieldTotal policy known f.type + packedTotal policy known rest := rfl

theorem packedTotal_append (policy : NestedSizing) (known : Sizes) (a b : List Field) :
    packedTotal policy known (a ++ b) =
      packedTotal policy known a + packedTotal policy known b := by
  simp [packedTotal]

theorem map_fst_totalsFrom (policy : NestedSizing) (known : Sizes) (rs : List Record) :
    (totalsFrom policy known rs).map Prod.fst = rs.map (·.name) := by
  induction rs generalizing known with
  | nil => rfl
  | cons r rest ih => simp [totalsFrom, ih]

theorem length_totalsFrom (policy : NestedSizing) (known : Sizes) (rs : List Record) :
    (totalsFrom policy known rs).length = rs.length := by
  have h := congrArg List.length (map_fst_totalsFrom policy known rs)
  rwa [List.length_map, List.length_map] at h

theorem totalsFrom_append (policy : NestedSizing) (known : Sizes) (a b : List Record) :
    totalsFrom policy known (a ++ b) =
      totalsFrom policy known a ++
        totalsFrom policy ((totalsFrom policy known a).reverse ++ known) b := by
  induction a generalizing known with
  | nil => rfl
  | cons r rest ih => simp [totalsFrom, ih]

/-! ## Capped sizes -/

/-- The same sizes, each cut off at the cap. -/
def Sizes.capped (sizes : Sizes) : Sizes :=
  sizes.map fun e => (e.1, min e.2 sizeCap)

@[simp] theorem Sizes.capped_cons (name : String) (n : Nat) (sizes : Sizes) :
    Sizes.capped ((name, n) :: sizes) = (name, min n sizeCap) :: sizes.capped := rfl

theorem Sizes.capped_append (a b : Sizes) : (a ++ b : Sizes).capped = a.capped ++ b.capped :=
  List.map_append

theorem Sizes.mem_capped_of_mem {sizes : Sizes} {name : String} {n : Nat}
    (h : (name, n) ∈ sizes) : (name, min n sizeCap) ∈ sizes.capped :=
  List.mem_map_of_mem h

theorem lookup_map_value {α β : Type} (g : α → β) (l : List (String × α)) (name : String) :
    (l.map fun e => (e.1, g e.2)).lookup name = (l.lookup name).map g := by
  induction l with
  | nil => rfl
  | cons e rest ih =>
      obtain ⟨k, a⟩ := e
      rw [List.map_cons, List.lookup_cons, List.lookup_cons, ih]
      cases name == k <;> rfl

theorem Sizes.get?_capped (sizes : Sizes) (name : String) :
    sizes.capped.get? name = (sizes.get? name).map (min · sizeCap) :=
  lookup_map_value (min · sizeCap) sizes name

theorem Sizes.get?_eq_none_iff {sizes : Sizes} {name : String} :
    sizes.get? name = none ↔ name ∉ sizes.map Prod.fst := by
  unfold Sizes.get?
  rw [List.lookup_eq_none_iff, List.mem_map]
  constructor
  · rintro h ⟨e, he, rfl⟩
    simpa using h e he
  · intro h e he
    simpa using fun heq : name = e.1 => h ⟨e, he, heq.symm⟩

/-- Among distinct names, every name is found with its own size. -/
theorem Sizes.get?_eq_some_of_mem {sizes : Sizes} {name : String} {n : Nat}
    (hd : (sizes.map Prod.fst).Nodup) (h : (name, n) ∈ sizes) : sizes.get? name = some n := by
  induction sizes with
  | nil => exact absurd h List.not_mem_nil
  | cons e rest ih =>
      rw [List.map_cons, List.nodup_cons] at hd
      unfold Sizes.get? at ih ⊢
      rw [List.lookup_cons]
      rcases List.mem_cons.mp h with rfl | hrest
      · simp
      · have hmem : name ∈ rest.map Prod.fst := List.mem_map_of_mem hrest
        have hne : (name == e.1) = false := by
          rw [beq_eq_false_iff_ne]
          exact fun heq => hd.1 (heq ▸ hmem)
        rw [hne]
        exact ih hd.2 hrest

theorem Primitive.size_le_sizeCap (p : Primitive) : p.size ≤ sizeCap := by
  cases p <;> decide

theorem fieldSize?_capped (policy : NestedSizing) (known : Sizes) (t : TypeToken) :
    fieldSize? policy known.capped t = (fieldSize? policy known t).map (min · sizeCap) := by
  cases t with
  | primitive p => simp [fieldSize?, Nat.min_eq_left p.size_le_sizeCap]
  | named name =>
      cases policy with
      | resolve => exact Sizes.get?_capped known name
      | skip => rfl

/-- Capping the parts of a sum does not show once the sum is capped. -/
theorem addCapped_min (a b : Nat) :
    addCapped (min a sizeCap) (min b sizeCap) = min (a + b) sizeCap := by
  unfold addCapped
  omega

/-- A running total with one more field added to it. -/
def addField (policy : NestedSizing) (sizes : Sizes) (total : Nat) (t : TypeToken) : Nat :=
  match fieldSize? policy sizes t with
  | some n => addCapped total n
  | none => total

theorem packedSize_eq_foldl (policy : NestedSizing) (sizes : Sizes) (fields : List Field) :
    packedSize policy sizes fields =
      fields.foldl (fun total f => addField policy sizes total f.type) 0 := rfl

/-- **One field.** A capped total goes to the capped total of one field more. -/
theorem addField_capped (policy : NestedSizing) (known : Sizes) (a : Nat) (t : TypeToken) :
    addField policy known.capped (min a sizeCap) t =
      min (a + fieldTotal policy known t) sizeCap := by
  rw [addField, fieldSize?_capped, fieldTotal]
  cases fieldSize? policy known t with
  | none => simp
  | some n => exact addCapped_min a n

/-- The sum taken on from any capped total, as the fold from the left needs it. -/
theorem foldl_addField_capped (policy : NestedSizing) (known : Sizes) (a : Nat)
    (fields : List Field) :
    fields.foldl (fun total f => addField policy known.capped total f.type) (min a sizeCap) =
      min (a + packedTotal policy known fields) sizeCap := by
  induction fields generalizing a with
  | nil => simp
  | cons f rest ih =>
      rw [List.foldl_cons, addField_capped, ih, packedTotal_cons, Nat.add_assoc]

/-- **One record.** Among capped sizes of the earlier records, the capped sum of some fields
is their exact total, capped. -/
theorem packedSize_capped (policy : NestedSizing) (known : Sizes) (fields : List Field) :
    packedSize policy known.capped fields = min (packedTotal policy known fields) sizeCap := by
  have h := foldl_addField_capped policy known 0 fields
  rwa [Nat.zero_min, Nat.zero_add, ← packedSize_eq_foldl] at h

/-- **All records.** Measuring on from capped sizes gives the exact totals, capped. -/
theorem map_measureFrom_capped (policy : NestedSizing) (known : Sizes) (rs : List Record) :
    (measureFrom policy known.capped rs).map (fun m => (m.name, m.size)) =
      (totalsFrom policy known rs).capped := by
  induction rs generalizing known with
  | nil => rfl
  | cons r rest ih =>
      have hm := packedSize_capped policy known r.fields
      simp only [measureFrom, measure, totalsFrom, List.map_cons, Sizes.capped_cons, hm]
      rw [← Sizes.capped_cons, ih]

/-! ## Reports -/

namespace Report

/-- What the report says of each record, in schema order. -/
def sizes (report : Report) : Sizes :=
  report.measured.map fun m => (m.name, m.size)

/-- The warning for a record of that name and size, if it deserves one. -/
def warningFor? (e : String × Nat) : Option Warning :=
  warning? ⟨e.1, e.2, []⟩

theorem recordSize?_eq (report : Report) (name : String) :
    report.recordSize? name = Sizes.get? report.sizes.reverse name := by
  simp [recordSize?, sizesAfter, sizes]

theorem warnings_eq (report : Report) : report.warnings = report.sizes.filterMap warningFor? := by
  simp only [warnings, sizes, List.filterMap_map]
  rfl

/-- A warning is given for a name and size that were measured, unless the name is a
primitive's or the size a multiple of a word. -/
theorem mem_warnings_iff {report : Report} {w : Warning} :
    w ∈ report.warnings ↔ (w.record, w.size) ∈ report.sizes ∧
      Primitive.ofToken? w.record = none ∧ w.size % wordSize ≠ 0 := by
  rw [warnings_eq, List.mem_filterMap]
  constructor
  · rintro ⟨⟨name, n⟩, he, hw⟩
    simp only [warningFor?, warning?, Option.ite_none_right_eq_some, Option.some.injEq,
      Bool.and_eq_true, Option.isNone_iff_eq_none, bne_iff_ne] at hw
    obtain ⟨⟨hname, hn⟩, rfl⟩ := hw
    exact ⟨he, hname, hn⟩
  · rintro ⟨he, hname, hn⟩
    exact ⟨(w.record, w.size), he, by simp [warningFor?, warning?, hname, hn]⟩

end Report

/-- **A whole check.** The sizes of a check are the exact totals, capped. -/
theorem sizes_checkAlignment (policy : NestedSizing) (s : Schema) :
    (checkAlignment policy s).sizes = (s.totals policy).capped :=
  map_measureFrom_capped policy [] s.records

/-- The size of a name in a check is the capped total of the last record of that name. -/
theorem recordSize?_checkAlignment (policy : NestedSizing) (s : Schema) (name : String) :
    (checkAlignment policy s).recordSize? name =
      (Sizes.get? (s.totals policy).reverse name).map (min · sizeCap) := by
  rw [Report.recordSize?_eq, sizes_checkAlignment, ← Sizes.get?_capped]
  simp [Sizes.capped]

/-- Where names are distinct, every record is reported with its own total, capped. -/
theorem recordSize?_checkAlignment_of_mem {policy : NestedSizing} {s : Schema}
    (hd : (s.records.map (·.name)).Nodup) {name : String} {total : Nat}
    (h : (name, total) ∈ s.totals policy) :
    (checkAlignment policy s).recordSize? name = some (min total sizeCap) := by
  have hnames : ((s.totals policy).reverse.map Prod.fst).Nodup := by
    rw [List.map_reverse, (List.reverse_perm _).nodup_iff, Schema.totals, map_fst_totalsFrom]
    exact hd
  rw [recordSize?_checkAlignment,
    Sizes.get?_eq_some_of_mem hnames (List.mem_reverse.mpr h), Option.map_some]

theorem recordSize?_checkAlignment_eq_none_iff {policy : NestedSizing} {s : Schema}
    {name : String} :
    (checkAlignment policy s).recordSize? name = none ↔ s.record? name = none := by
  rw [recordSize?_checkAlignment, Option.map_eq_none_iff, Sizes.get?_eq_none_iff,
    List.map_reverse, List.mem_reverse, Schema.totals, map_fst_totalsFrom,
    Schema.record?_eq_none_iff]
  simp

theorem report_eq_of_totals_eq {p q : NestedSizing} {s t : Schema}
    (h : s.totals p = t.totals q) :
    (checkAlignment p s).warnings = (checkAlignment q t).warnings ∧
      ∀ name, (checkAlignment p s).recordSize? name = (checkAlignment q t).recordSize? name := by
  constructor
  · rw [Report.warnings_eq, Report.warnings_eq, sizes_checkAlignment, sizes_checkAlignment, h]
  · intro name
    rw [recordSize?_checkAlignment, recordSize?_checkAlignment, h]

end MemMap
