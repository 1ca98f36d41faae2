import Mathlib.Data.List.Forall2
import MemMap.Proofs.Totals

/-!
# MemMap.Proofs.Order

What a report owes to the order of a schema.

The order of the fields of a record does not matter to its size, for a total is a sum. The
order of two neighbouring records matters in two ways: one of them may count by the other,
and if both bear one name, the later is the one that is found. Where neither is the case
(`Record.Separate`), exchanging them exchanges their entries in the list of totals and nothing
else. The records after them find the same sizes under all names (`Sizes.Alike`), for names
are looked up, never counted.

* `totals_eq_of_sameFields` — fields in another order;
* `totals_exchange` — neighbouring records exchanged;
* `order_of_declarations` — what a report shows of either.
-/

namespace MemMap

variable {policy : NestedSizing} {known other : Sizes} {name : String}

/-! ## Tables that are looked up alike -/

/-- Tables in which every name has the same size. -/
def Sizes.Alike (a b : Sizes) : Prop := ∀ name, a.get? name = b.get? name

namespace Sizes

theorem get?_cons (sizes : Sizes) (m : String) (n : Nat) (name : String) :
    get? ((m, n) :: sizes) name = if name = m then some n else sizes.get? name := by
  unfold get?
  rw [List.lookup_cons]
  by_cases h : name = m
  · rw [if_pos h, h, beq_self_eq_true]
  · rw [if_neg h, beq_eq_false_iff_ne.mpr h]

theorem Alike.cons (h : Alike known other) (e : String × Nat) :
    Alike (e :: known) (e :: other) := by
  intro name
  rw [get?_cons, get?_cons, h name]

theorem Alike.append_left (h : Alike known other) (front : Sizes) :
    Alike (front ++ known) (front ++ other) := by
  induction front with
  | nil => exact h
  | cons e rest ih => exact ih.cons e

/-- The entries of two different names may stand in either order. -/
theorem alike_exchange {m n : String} (h : m ≠ n) (x y : Nat) (sizes : Sizes) :
    Alike ((m, x) :: (n, y) :: sizes) ((n, y) :: (m, x) :: sizes) := by
  intro name
  simp only [get?_cons]
  by_cases hm : name = m
  · have hn : name ≠ n := hm ▸ h
    rw [if_pos hm, if_neg hn, if_pos hm]
  · rw [if_neg hm, if_neg hm]

end Sizes

theorem fieldTotal_congr (h : Sizes.Alike known other) (t : TypeToken) :
    fieldTotal policy known t = fieldTotal policy other t := by
  cases t with
  | primitive p => rfl
  | named name =>
      cases policy with
      | skip => rfl
      | resolve =>
          show (known.get? name).getD 0 = (other.get? name).getD 0
          rw [h name]

theorem packedTotal_congr (h : Sizes.Alike known other) (fields : List Field) :
    packedTotal policy known fields = packedTotal policy other fields :=
  congrArg List.sum (List.map_congr_left fun f _ => fieldTotal_congr h f.type)

/-- **Names are looked up.** The totals of some records depend on the sizes known before them
through what is found under each name. -/
theorem totalsFrom_congr (h : Sizes.Alike known other) (rs : List Record) :
    totalsFrom policy known rs = totalsFrom policy other rs := by
  induction rs generalizing known other with
  | nil => rfl
  | cons r rest ih => rw [totalsFrom, totalsFrom, packedTotal_congr h, ih (h.cons _)]

/-! ## The order of fields -/

/-- Two records of one name with the same fields, in any order. -/
structure Record.SameFields (r q : Record) : Prop where
  name : r.name = q.name
  fields : r.fields.Perm q.fields

theorem packedTotal_perm {a b : List Field} (h : a.Perm b) :
    packedTotal policy known a = packedTotal policy known b :=
  (h.map _).sum_nat

theorem totalsFrom_eq_of_sameFields {rs qs : List Record}
    (h : List.Forall₂ Record.SameFields rs qs) :
    totalsFrom policy known rs = totalsFrom policy known qs := by
  induction h generalizing known with
  | nil => rfl
  | cons hrq _ ih => rw [totalsFrom, totalsFrom, hrq.name, packedTotal_perm hrq.fields, ih]

/-- **Fields in another order.** The totals of a schema are the same. -/
theorem totals_eq_of_sameFields {s t : Schema}
    (h : List.Forall₂ Record.SameFields s.records t.records) :
    s.totals policy = t.totals policy :=
  totalsFrom_eq_of_sameFields h

/-! ## The order of records -/

/-- Whether a field of the record is of the type that bears the name. -/
def Record.Mentions (r : Record) (name : String) : Prop := ∃ f ∈ r.fields, f.type = .named name

instance (r : Record) (name : String) : Decidable (r.Mentions name) :=
  inferInstanceAs (Decidable (∃ f ∈ r.fields, f.type = .named name))

/-- Two records of different names neither of which counts by the other. Where names are
skipped, no record counts by another. -/
structure Record.Separate (policy : NestedSizing) (r q : Record) : Prop where
  names : r.name ≠ q.name
  fields : policy = .resolve → ¬ r.Mentions q.name ∧ ¬ q.Mentions r.name

theorem fieldTotal_cons_of_ne {t : TypeToken} (h : policy = .resolve → t ≠ .named name) (n : Nat) :
    fieldTotal policy ((name, n) :: known) t = fieldTotal policy known t := by
  cases t with
  | primitive p => rfl
  | named m =>
      cases policy with
      | skip => rfl
      | resolve =>
          have hne : m ≠ name := fun heq => h rfl (congrArg TypeToken.named heq)
          show (Sizes.get? ((name, n) :: known) m).getD 0 = (known.get? m).getD 0
          rw [Sizes.get?_cons, if_neg hne]

/-- A record that does not count by a name has the same total whatever the size of that
name. -/
theorem packedTotal_cons_of_not_mentions {r : Record}
    (h : policy = .resolve → ¬ r.Mentions name) (n : Nat) :
    packedTotal policy ((name, n) :: known) r.fields = packedTotal policy known r.fields := by
  refine congrArg List.sum (List.map_congr_left fun f hf => ?_)
  exact fieldTotal_cons_of_ne (fun hpolicy htype => h hpolicy ⟨f, hf, htype⟩) n

/-- **Neighbours exchanged.** The totals of two separate neighbours are exchanged with them,
and those of all other records stay as they are. -/
theorem totals_exchange {r q : Record} (h : Record.Separate policy r q) (a b : List Record) :
    ∃ (front : Sizes) (m n : Nat) (back : Sizes), front.length = a.length ∧
      Schema.totals policy ⟨a ++ r :: q :: b⟩ = front ++ (r.name, m) :: (q.name, n) :: back ∧
      Schema.totals policy ⟨a ++ q :: r :: b⟩ = front ++ (q.name, n) :: (r.name, m) :: back := by
  let front := totalsFrom policy [] a
  let m := packedTotal policy front.reverse r.fields
  let n := packedTotal policy front.reverse q.fields
  let back := totalsFrom policy ((q.name, n) :: (r.name, m) :: front.reverse) b
  have hq : packedTotal policy ((r.name, m) :: front.reverse) q.fields = n :=
    packedTotal_cons_of_not_mentions (fun hpolicy => (h.fields hpolicy).2) m
  have hr : packedTotal policy ((q.name, n) :: front.reverse) r.fields = m :=
    packedTotal_cons_of_not_mentions (fun hpolicy => (h.fields hpolicy).1) n
  have hback : totalsFrom policy ((r.name, m) :: (q.name, n) :: front.reverse) b = back :=
    totalsFrom_congr (Sizes.alike_exchange h.names m n front.reverse) b
  refine ⟨front, m, n, back, length_totalsFrom policy [] a, ?_, ?_⟩
  · simp only [Schema.totals, totalsFrom_append, List.append_nil, totalsFrom]
    rw [hq]
  · simp only [Schema.totals, totalsFrom_append, List.append_nil, totalsFrom]
    rw [hr, hback]

/-! ## Reports -/

theorem recordSize?_congr {s t : Schema}
    (h : Sizes.Alike (s.totals policy).reverse (t.totals policy).reverse) (name : String) :
    (checkAlignment policy s).recordSize? name = (checkAlignment policy t).recordSize? name := by
  rw [recordSize?_checkAlignment, recordSize?_checkAlignment, h name]

/-- Exchanging two neighbouring entries of different names exchanges nothing that is looked up
from the end of a table. -/
theorem Sizes.alike_reverse_exchange {m n : String} (h : m ≠ n) (x y : Nat) (front back : Sizes) :
    Alike (front ++ (m, x) :: (n, y) :: back).reverse
      (front ++ (n, y) :: (m, x) :: back).reverse := by
  have hswap := (alike_exchange h.symm y x front.reverse).append_left back.reverse
  simpa using hswap

/-- The warnings of a table of sizes come from its parts. -/
theorem filterMap_warningFor?_append (front back : Sizes) (x y : String × Nat) :
    (front ++ x :: y :: back).filterMap Report.warningFor? =
      front.filterMap Report.warningFor? ++ (Report.warningFor? x).toList ++
        (Report.warningFor? y).toList ++ back.filterMap Report.warningFor? := by
  rw [List.filterMap_append, List.filterMap_cons, List.filterMap_cons]
  cases Report.warningFor? x <;> cases Report.warningFor? y <;> simp

/-- **What the order of declarations is for.** With the fields of its records in any order a
schema has the same warnings and the same size for every name. So it has for every name when
two neighbouring records of different names are exchanged neither of which counts by the
other; the sizes computed for the two are exchanged, and with them the warnings they give, if
any, and all else stays as it is. Where names are skipped, different names are enough. -/
theorem order_of_declarations (policy : NestedSizing) :
    (∀ s t : Schema, List.Forall₂ Record.SameFields s.records t.records →
      (checkAlignment policy s).warnings = (checkAlignment policy t).warnings ∧
      ∀ name, (checkAlignment policy s).recordSize? name =
        (checkAlignment policy t).recordSize? name) ∧
    ∀ (a b : List Record) (r q : Record), r.name ≠ q.name →
      (policy = .resolve → ¬ r.Mentions q.name ∧ ¬ q.Mentions r.name) →
      let report := checkAlignment policy ⟨a ++ r :: q :: b⟩
      let exchanged := checkAlignment policy ⟨a ++ q :: r :: b⟩
      (∀ name, report.recordSize? name = exchanged.recordSize? name) ∧
      ∃ front m n back, front.length = a.length ∧
        report.sizes = front ++ (r.name, m) :: (q.name, n) :: back ∧
        exchanged.sizes = front ++ (q.name, n) :: (r.name, m) :: back ∧
        report.warnings = front.filterMap Report.warningFor? ++
          (Report.warningFor? (r.name, m)).toList ++
          (Report.warningFor? (q.name, n)).toList ++ back.filterMap Report.warningFor? ∧
        exchanged.warnings = front.filterMap Report.warningFor? ++
          (Report.warningFor? (q.name, n)).toList ++
          (Report.warningFor? (r.name, m)).toList ++ back.filterMap Report.warningFor? := by
  refine ⟨fun s t h => report_eq_of_totals_eq (totals_eq_of_sameFields h), ?_⟩
  intro a b r q hnames hfields report exchanged
  obtain ⟨front, m, n, back, hlength, hs, ht⟩ := totals_exchange ⟨hnames, hfields⟩ a b
  have hsizes : report.sizes =
      front.capped ++ (r.name, min m sizeCap) :: (q.name, min n sizeCap) :: back.capped := by
    rw [sizes_checkAlignment, hs, Sizes.capped_append, Sizes.capped_cons, Sizes.capped_cons]
  have hexchanged : exchanged.sizes =
      front.capped ++ (q.name, min n sizeCap) :: (r.name, min m sizeCap) :: back.capped := by
    rw [sizes_checkAlignment, ht, Sizes.capped_append, Sizes.capped_cons, Sizes.capped_cons]
  constructor
  · refine recordSize?_congr ?_
    rw [hs, ht]
    exact Sizes.alike_reverse_exchange hnames m n front back
  · refine ⟨front.capped, _, _, back.capped, ?_, hsizes, hexchanged, ?_, ?_⟩
    · rw [Sizes.capped, List.length_map, hlength]
    · rw [Report.warnings_eq, hsizes, filterMap_warningFor?_append]
    · rw [Report.warnings_eq, hexchanged, filterMap_warningFor?_append]

def leftRecord : Record := ⟨"B", [⟨"a", .named "A"⟩]⟩

def rightRecord : Record := ⟨"C", [⟨"z", .primitive .u32⟩, ⟨"a", .named "A"⟩]⟩

/-- The same fields as in `rightRecord`, the other way round. -/
def turnedRecord : Record := ⟨"C", [⟨"a", .named "A"⟩, ⟨"z", .primitive .u32⟩]⟩

def beforeNeighbours : List Record :=
  [⟨"A", [⟨"x", .primitive .u8⟩, ⟨"y", .primitive .u16⟩]⟩]

/-- A record that counts by both neighbours, and bears the name of one of them. -/
def afterNeighbours : List Record := [⟨"B", [⟨"b", .named "B"⟩, ⟨"c", .named "C"⟩]⟩]

def neighbours (left right : Record) : Schema :=
  ⟨beforeNeighbours ++ left :: right :: afterNeighbours⟩

theorem order_of_declarations_nested :
    (checkAlignment .resolve (neighbours leftRecord turnedRecord)).warnings =
        [⟨"A", 3⟩, ⟨"B", 3⟩, ⟨"C", 7⟩, ⟨"B", 10⟩] ∧
      (checkAlignment .resolve (neighbours rightRecord leftRecord)).warnings =
        [⟨"A", 3⟩, ⟨"C", 7⟩, ⟨"B", 3⟩, ⟨"B", 10⟩] ∧
      (checkAlignment .resolve (neighbours rightRecord leftRecord)).recordSize? "B" = some 10 := by
  obtain ⟨hfields, hrecords⟩ := order_of_declarations .resolve
  have hturned : List.Forall₂ Record.SameFields (neighbours leftRecord rightRecord).records
      (neighbours leftRecord turnedRecord).records :=
    .cons ⟨rfl, .refl _⟩ (.cons ⟨rfl, .refl _⟩ (.cons ⟨rfl, .swap _ _ _⟩
      (.cons ⟨rfl, .refl _⟩ .nil)))
  obtain ⟨hlook, front, m, n, back, hlength, hsizes, -, -, hwarnings⟩ :=
    hrecords beforeNeighbours afterNeighbours leftRecord rightRecord (by decide) fun _ => by decide
  obtain ⟨e, rfl⟩ := List.length_eq_one_iff.mp hlength
  have hknown : [("A", 3), ("B", 3), ("C", 7), ("B", 10)] =
      [e] ++ ("B", m) :: ("C", n) :: back := Eq.trans (by decide) hsizes
  simp only [List.cons_append, List.nil_append, List.cons.injEq, Prod.mk.injEq, true_and]
    at hknown
  obtain ⟨rfl, rfl, rfl, rfl⟩ := hknown
  refine ⟨?_, hwarnings, ?_⟩
  · rw [← (hfields _ _ hturned).1]
    decide
  · exact (hlook "B").symm.trans (by decide)

end MemMap
