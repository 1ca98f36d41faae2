import MemMap.Proofs.Totals

/-!
# MemMap.Proofs.ExactSize

The size of a record by its place in the schema.

`Schema.exactSize` says what the size of the record at an index is, without the check's
running table of names: a field that names a record counts by the last earlier index of that
name (`Schema.lastBefore?`), however large the result. Names may repeat, and a name may be
spelled like a primitive.

* `Schema.totals_eq_exactSize` — the totals the check follows are these sizes;
* `checkAlignment_exact` — what a check computes and reports is these sizes, capped.
-/

namespace MemMap

namespace Schema

/-! ## The last earlier record of a name -/

/-- The last of the first `i` records that bears the name. -/
def lastBefore? (s : Schema) (name : String) : Nat → Option Nat
  | 0 => none
  | i + 1 => if (s.records[i]?.map (·.name)) = some name then some i else s.lastBefore? name i

/-- What makes an index the last before `i`: it comes before `i` and bears the name, and
nothing between the two does. -/
theorem lastBefore?_eq_some_iff {s : Schema} {name : String} {i j : Nat} :
    s.lastBefore? name i = some j ↔
      j < i ∧ s.records[j]?.map (·.name) = some name ∧
        ∀ k, j < k → k < i → s.records[k]?.map (·.name) ≠ some name := by
  induction i with
  | zero => simp [lastBefore?]
  | succ i ih =>
      rw [lastBefore?]
      by_cases hi : s.records[i]?.map (·.name) = some name
      · rw [if_pos hi, Option.some.injEq]
        constructor
        · rintro rfl
          exact ⟨by omega, hi, fun k _ _ => by omega⟩
        · rintro ⟨hj, _, hlast⟩
          -- Otherwise `i` itself would lie after `j` and bear the name.
          exact Decidable.byContradiction fun hne => hlast i (by omega) (by omega) hi
      · rw [if_neg hi, ih]
        constructor
        · rintro ⟨hj, hname, hlast⟩
          refine ⟨by omega, hname, fun k hjk hk => ?_⟩
          rcases Nat.lt_succ_iff_lt_or_eq.mp hk with hlt | rfl
          · exact hlast k hjk hlt
          · exact hi
        · rintro ⟨hj, hname, hlast⟩
          have hji : j ≠ i := fun h => hi (h ▸ hname)
          exact ⟨by omega, hname, fun k hjk hk => hlast k hjk (by omega)⟩

theorem lastBefore?_lt {s : Schema} {name : String} {i j : Nat}
    (h : s.lastBefore? name i = some j) : j < i :=
  (lastBefore?_eq_some_iff.mp h).1

/-! ## Exact sizes -/

/-- The size of the record at an index, however large: primitives by their width, a name
under `resolve` by the last earlier record of that name, and every other name as nothing. -/
def exactSize (policy : NestedSizing) (s : Schema) (i : Nat) : Nat :=
  match s.records[i]? with
  | none => 0
  | some r =>
    (r.fields.map fun f =>
      match f.type, policy with
      | .primitive p, _ => p.size
      | .named _, .skip => 0
      | .named name, .resolve =>
        match h : s.lastBefore? name i with
        | some j =>
          have := lastBefore?_lt h
          s.exactSize policy j
        | none => 0).sum
termination_by i

/-- The exact sizes of the first `i` records, the latest first. -/
def exactBefore (policy : NestedSizing) (s : Schema) (i : Nat) : Sizes :=
  ((s.records.take i).zipIdx.map fun e => (e.1.name, s.exactSize policy e.2)).reverse

theorem exactBefore_succ (policy : NestedSizing) (s : Schema) {i : Nat} {r : Record}
    (hr : s.records[i]? = some r) :
    s.exactBefore policy (i + 1) = (r.name, s.exactSize policy i) :: s.exactBefore policy i := by
  have hi : i < s.records.length := (List.getElem?_eq_some_iff.mp hr).1
  have hlen : (s.records.take i).length = i := List.length_take_of_le (Nat.le_of_lt hi)
  rw [exactBefore, List.take_add_one, hr, Option.toList_some, List.zipIdx_append, hlen]
  simp [exactBefore]

/-- Among the first `i` records a name has the exact size of the last that bears it. -/
theorem get?_exactBefore (policy : NestedSizing) (s : Schema) (name : String) (i : Nat) :
    (s.exactBefore policy i).get? name =
      (s.lastBefore? name i).map (s.exactSize policy) := by
  induction i with
  | zero => rfl
  | succ i ih =>
      rw [lastBefore?]
      cases hr : s.records[i]? with
      | none =>
          rw [exactBefore, List.take_add_one, hr]
          simpa [exactBefore] using ih
      | some r =>
          rw [exactBefore_succ policy s hr]
          unfold Sizes.get? at ih ⊢
          rw [List.lookup_cons, ih]
          by_cases hn : r.name = name
          · simp [hn]
          · have hb : (name == r.name) = false := by simpa using Ne.symm hn
            simp [hb, hn]

/-- A record's exact size is its total over the exact sizes before it. -/
theorem exactSize_eq_packedTotal (policy : NestedSizing) (s : Schema) {i : Nat} {r : Record}
    (hr : s.records[i]? = some r) :
    s.exactSize policy i = packedTotal policy (s.exactBefore policy i) r.fields := by
  rw [exactSize, hr]
  refine congrArg List.sum (List.map_congr_left fun f _ => ?_)
  unfold fieldTotal
  cases f.type with
  | primitive p => rfl
  | named name =>
      cases policy with
      | skip => rfl
      | resolve =>
          simp only [fieldSize?, get?_exactBefore]
          split <;> simp_all

/-! ## The totals of a check -/

/-- The record that a walk meets after `i` others, and what remains behind it. -/
theorem getElem?_and_drop_of_drop {s : Schema} {i : Nat} {r : Record} {rest : List Record}
    (h : s.records.drop i = r :: rest) :
    s.records[i]? = some r ∧ s.records.drop (i + 1) = rest := by
  constructor
  · rw [← List.head?_drop, h, List.head?_cons]
  · rw [← List.tail_drop, h, List.tail_cons]

/-- From any record on, the totals are the exact sizes. The walk has passed `i` records and
knows their exact sizes; the induction is on the records to come. -/
theorem totalsFrom_exactBefore (policy : NestedSizing) (s : Schema) (i : Nat)
    (rest : List Record) (h : s.records.drop i = rest) :
    totalsFrom policy (s.exactBefore policy i) rest =
      (rest.zipIdx i).map fun e => (e.1.name, s.exactSize policy e.2) := by
  induction rest generalizing i with
  | nil => rfl
  | cons r rest ih =>
      obtain ⟨hr, hrest⟩ := getElem?_and_drop_of_drop h
      simp only [totalsFrom, List.zipIdx_cons, List.map_cons]
      rw [← exactSize_eq_packedTotal policy s hr, ← exactBefore_succ policy s hr,
        ih (i + 1) hrest]

/-- **Totals by index.** The totals that a check follows are the exact sizes of the records
in order. -/
theorem totals_eq_exactSize (policy : NestedSizing) (s : Schema) :
    s.totals policy = s.records.zipIdx.map fun e => (e.1.name, s.exactSize policy e.2) :=
  totalsFrom_exactBefore policy s 0 s.records rfl

theorem reverse_totals (policy : NestedSizing) (s : Schema) :
    (s.totals policy).reverse = s.exactBefore policy s.size := by
  rw [totals_eq_exactSize, exactBefore, size, List.take_length]

end Schema

/-! ## Checks -/

/-- **The check is exact up to the cap.** The size computed for each record is its exact
size, capped, however deep its names go. A name is reported with the size of the last record
that bears it, and with none exactly if no record does. -/
theorem checkAlignment_exact (policy : NestedSizing) (s : Schema) :
    (checkAlignment policy s).measured.map (fun m => (m.name, m.size)) =
        s.records.zipIdx.map (fun e => (e.1.name, min (s.exactSize policy e.2) sizeCap)) ∧
      (∀ name, (checkAlignment policy s).recordSize? name =
        (s.lastBefore? name s.size).map fun i => min (s.exactSize policy i) sizeCap) ∧
      ∀ name, (checkAlignment policy s).recordSize? name = none ↔ s.record? name = none := by
  refine ⟨?_, fun name => ?_, fun name => ?_⟩
  · have h := sizes_checkAlignment policy s
    rw [Schema.totals_eq_exactSize, Sizes.capped, List.map_map] at h
    exact h
  · rw [recordSize?_checkAlignment, Schema.reverse_totals, Schema.get?_exactBefore,
      Option.map_map]
    rfl
  · exact recordSize?_checkAlignment_eq_none_iff

end MemMap
