import Mathlib.Data.List.Forall2
import MemMap.Proofs.Order

/-!
# MemMap.Proofs.Growth

Sizes grow with what is counted.

A record gets larger, or stays as it is, when it has more fields, when the records it counts
by get larger, and when names are resolved that were skipped before. The three meet in one
fact about a record (`packedTotal_mono`): it compares the record over one table of sizes and
policy with a record of more fields over a table that is no smaller and a policy that skips no
more. A walk through the records hands on tables in this relation (`Sizes.AtMost`), so an
increase is carried through names to any depth. The cap cuts off both sides alike.

* `totals_mono` — the totals of two schemas, one of which has more to count;
* `sizes_monotone` — the sizes that two checks compute.
-/

namespace MemMap

variable {p q : NestedSizing} {known other : Sizes}

/-! ## Tables that grow -/

/-- Tables of the same names in the same order in which no size of the first is larger than
the one at its place in the second. -/
def Sizes.AtMost (a b : Sizes) : Prop := List.Forall₂ (fun x y => x.1 = y.1 ∧ x.2 ≤ y.2) a b

namespace Sizes.AtMost

theorem cons (h : AtMost known other) (name : String) {m n : Nat} (hmn : m ≤ n) :
    AtMost ((name, m) :: known) ((name, n) :: other) :=
  List.Forall₂.cons ⟨rfl, hmn⟩ h

theorem reverse (h : AtMost known other) : AtMost known.reverse other.reverse :=
  List.forall₂_reverse_iff.mpr h

/-- Cutting off at the cap keeps the order of sizes. -/
theorem capped (h : AtMost known other) : AtMost known.capped other.capped := by
  induction h with
  | nil => exact .nil
  | cons hxy _ ih =>
      obtain ⟨hname, hsize⟩ := hxy
      refine List.Forall₂.cons ⟨hname, ?_⟩ ih
      show min _ sizeCap ≤ min _ sizeCap
      omega

/-- Every name is found in both tables or in none, and no smaller in the second. -/
theorem get? (h : AtMost known other) (name : String) :
    Option.Rel (· ≤ ·) (known.get? name) (other.get? name) := by
  induction h with
  | nil => exact .none
  | @cons x y _ _ hxy _ ih =>
      obtain ⟨hname, hsize⟩ := hxy
      rw [Sizes.get?_cons _ x.1, Sizes.get?_cons _ y.1, hname]
      by_cases hn : name = y.1
      · rw [if_pos hn, if_pos hn]
        exact .some hsize
      · rw [if_neg hn, if_neg hn]
        exact ih

end Sizes.AtMost

/-! ## What counts for more -/

/-- A policy skips whatever another skips: it is the same, or it skips all names. -/
def NestedSizing.AtMost (p q : NestedSizing) : Prop := p = .skip ∨ p = q

/-- A record and one of the same name with the same fields in the same order, and perhaps
further ones before, between and after them. -/
structure Record.Within (r q : Record) : Prop where
  name : r.name = q.name
  fields : r.fields.Sublist q.fields

/-- **One field.** It counts for no more over smaller sizes, and for nothing if it is
skipped. -/
theorem fieldTotal_mono (hp : p.AtMost q) (hk : known.AtMost other) (t : TypeToken) :
    fieldTotal p known t ≤ fieldTotal q other t := by
  cases t with
  | primitive b => exact Nat.le_refl b.size
  | named name =>
      rcases hp with rfl | rfl
      · exact Nat.zero_le _
      · cases p with
        | skip => exact Nat.le_refl 0
        | resolve =>
            show (known.get? name).getD 0 ≤ (other.get? name).getD 0
            have hget := hk.get? name
            generalize known.get? name = m at hget
            generalize other.get? name = n at hget
            cases hget with
            | none => exact Nat.le_refl 0
            | some hmn => exact hmn

/-- **One record.** Its total does not shrink when fields are added, sizes grow or names are
resolved. -/
theorem packedTotal_mono (hp : p.AtMost q) (hk : known.AtMost other) {a b : List Field}
    (h : a.Sublist b) : packedTotal p known a ≤ packedTotal q other b := by
  induction h with
  | slnil => exact Nat.le_refl 0
  | cons f _ ih =>
      rw [packedTotal_cons]
      exact Nat.le_add_left_of_le ih
  | cons_cons f _ ih =>
      rw [packedTotal_cons, packedTotal_cons]
      exact Nat.add_le_add (fieldTotal_mono hp hk f.type) ih

/-- **All records.** What one record gains is known to those after it, which gain by it. -/
theorem totalsFrom_mono (hp : p.AtMost q) (hk : known.AtMost other) {rs qs : List Record}
    (h : List.Forall₂ Record.Within rs qs) :
    (totalsFrom p known rs).AtMost (totalsFrom q other qs) := by
  induction h generalizing known other with
  | nil => exact .nil
  | @cons r q' _ _ hrq _ ih =>
      have htotal := packedTotal_mono hp hk hrq.fields
      rw [totalsFrom, totalsFrom, hrq.name]
      exact (ih (hk.cons q'.name htotal)).cons q'.name htotal

theorem totals_mono (hp : p.AtMost q) {s t : Schema}
    (h : List.Forall₂ Record.Within s.records t.records) :
    (s.totals p).AtMost (t.totals q) :=
  totalsFrom_mono hp .nil h

/-! ## Reports -/

/-- The sizes of two checks, one of which has more to count. -/
theorem sizes_checkAlignment_mono (hp : p.AtMost q) {s t : Schema}
    (h : List.Forall₂ Record.Within s.records t.records) :
    (checkAlignment p s).sizes.AtMost (checkAlignment q t).sizes := by
  rw [sizes_checkAlignment, sizes_checkAlignment]
  exact (totals_mono hp h).capped

/-- Sizes reported under a name grow with those computed record by record. -/
theorem recordSize?_mono {a b : Report} (h : a.sizes.AtMost b.sizes) (name : String) :
    Option.Rel (· ≤ ·) (a.recordSize? name) (b.recordSize? name) := by
  rw [Report.recordSize?_eq, Report.recordSize?_eq]
  exact h.reverse.get? name

theorem Record.within_refl (rs : List Record) : List.Forall₂ Record.Within rs rs :=
  List.forall₂_same.mpr fun _ _ => ⟨rfl, .refl _⟩

/-- **Sizes are monotone.** Record by record, the size computed where names are skipped is at
most the one computed where they are resolved. Under either policy no size shrinks when
fields are inserted anywhere into the records of a schema, however deep names go and whether
or not sizes are cut off at the cap. Both hold of the size reported under each name, too, and
the names reported are the same. -/
theorem sizes_monotone :
    (∀ s : Schema, (checkAlignment .skip s).sizes.AtMost (checkAlignment .resolve s).sizes ∧
      ∀ name, Option.Rel (· ≤ ·) ((checkAlignment .skip s).recordSize? name)
        ((checkAlignment .resolve s).recordSize? name)) ∧
    ∀ (policy : NestedSizing) (s t : Schema), List.Forall₂ Record.Within s.records t.records →
      (checkAlignment policy s).sizes.AtMost (checkAlignment policy t).sizes ∧
      ∀ name, Option.Rel (· ≤ ·) ((checkAlignment policy s).recordSize? name)
        ((checkAlignment policy t).recordSize? name) := by
  constructor
  · intro s
    have h : (checkAlignment .skip s).sizes.AtMost (checkAlignment .resolve s).sizes :=
      sizes_checkAlignment_mono (.inl rfl) (Record.within_refl s.records)
    exact ⟨h, recordSize?_mono h⟩
  · intro policy s t hst
    have h : (checkAlignment policy s).sizes.AtMost (checkAlignment policy t).sizes :=
      sizes_checkAlignment_mono (.inr rfl) hst
    exact ⟨h, recordSize?_mono h⟩

/-- Two records, the second of which counts twice by the first. -/
def narrowSchema : Schema :=
  ⟨[⟨"A", [⟨"x", .primitive .u8⟩]⟩, ⟨"B", [⟨"a", .named "A"⟩, ⟨"b", .named "A"⟩]⟩]⟩

/-- The same with a field before that of the first record, and one between those of the
second. -/
def wideSchema : Schema :=
  ⟨[⟨"A", [⟨"w", .primitive .u16⟩, ⟨"x", .primitive .u8⟩]⟩,
    ⟨"B", [⟨"a", .named "A"⟩, ⟨"c", .primitive .u32⟩, ⟨"b", .named "A"⟩]⟩]⟩

theorem sizes_monotone_inserted :
    List.Forall₂ Record.Within narrowSchema.records wideSchema.records ∧
      (checkAlignment .resolve narrowSchema).sizes = [("A", 1), ("B", 2)] ∧
      (checkAlignment .resolve wideSchema).sizes = [("A", 3), ("B", 10)] ∧
      (checkAlignment .resolve narrowSchema).sizes.AtMost
        (checkAlignment .resolve wideSchema).sizes := by
  have hwithin : List.Forall₂ Record.Within narrowSchema.records wideSchema.records :=
    .cons ⟨rfl, by decide⟩ (.cons ⟨rfl, by decide⟩ .nil)
  obtain ⟨-, hinserted⟩ := sizes_monotone
  exact ⟨hwithin, by decide, by decide, (hinserted .resolve _ _ hwithin).1⟩

end MemMap
