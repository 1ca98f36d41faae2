import MemMap.Proofs.ExactSize

/-!
# MemMap.Proofs.Warnings

Which records a check warns about, told by their exact sizes.

The check decides by a size that was cut off at the cap. The cap is no multiple of a word, so
a record whose exact size lies above it is warned about, whether or not that size is a
multiple of a word; and a size up to the cap is judged as it is. Nothing that is misaligned
is lost on the way (`capped_misaligned_iff`).

`Schema.dueWarnings` lists the warnings that a schema deserves, record by record, without
the check's table of names and without sums that stop.

* `warnings_eq_dueWarnings` — the check gives these warnings;
* `mem_dueWarnings_iff` — the records they are about;
* `isAligned_iff` — what an aligned schema is;
* `warnings_sound_complete` — the warnings, and what follows of each.
-/

namespace MemMap

/-! ## Sizes above the cap -/

theorem sizeCap_mod_wordSize : sizeCap % wordSize = 3 := by decide

/-- **The cap hides nothing.** A capped size is no multiple of a word if and only if the exact
size is none or lies above the cap. -/
theorem capped_misaligned_iff (n : Nat) :
    min n sizeCap % wordSize ≠ 0 ↔ n % wordSize ≠ 0 ∨ sizeCap < n := by
  have hcap := sizeCap_mod_wordSize
  rcases Nat.lt_or_ge sizeCap n with hlt | hle
  · rw [Nat.min_eq_right (Nat.le_of_lt hlt), hcap]
    simp [hlt]
  · have hfits : ¬ sizeCap < n := Nat.not_lt.mpr hle
    rw [Nat.min_eq_left hle]
    simp [hfits]

/-! ## Deserved warnings -/

namespace Schema

variable {policy : NestedSizing} {s : Schema} {i : Nat} {r : Record} {w : Warning}

/-- Whether the record at an index is misaligned: its exact size is no multiple of a word, or
too large to be told. -/
def Misaligned (policy : NestedSizing) (s : Schema) (i : Nat) : Prop :=
  s.exactSize policy i % wordSize ≠ 0 ∨ sizeCap < s.exactSize policy i

instance (policy : NestedSizing) (s : Schema) (i : Nat) : Decidable (s.Misaligned policy i) :=
  inferInstanceAs (Decidable (_ ∨ _))

/-- The warning that a record at an index deserves, if any. -/
def dueWarning? (policy : NestedSizing) (s : Schema) (e : Record × Nat) : Option Warning :=
  if Primitive.ofToken? e.1.name = none ∧ s.Misaligned policy e.2 then
    some ⟨e.1.name, min (s.exactSize policy e.2) sizeCap⟩
  else
    none

/-- The warnings that a schema deserves, in order, one for each misaligned record whose name
is no primitive's. -/
def dueWarnings (policy : NestedSizing) (s : Schema) : List Warning :=
  s.records.zipIdx.filterMap (s.dueWarning? policy)

theorem dueWarning?_eq_some_iff :
    s.dueWarning? policy (r, i) = some w ↔ Primitive.ofToken? r.name = none ∧
      s.Misaligned policy i ∧ w = ⟨r.name, min (s.exactSize policy i) sizeCap⟩ := by
  unfold dueWarning?
  split
  next h => simp [h, eq_comm]
  next h =>
    constructor
    · intro hw
      cases hw
    · intro ⟨hname, hmis, _⟩
      exact absurd ⟨hname, hmis⟩ h

theorem mem_dueWarnings_iff :
    w ∈ s.dueWarnings policy ↔ ∃ i r, s.records[i]? = some r ∧
      Primitive.ofToken? r.name = none ∧ s.Misaligned policy i ∧
      w = ⟨r.name, min (s.exactSize policy i) sizeCap⟩ := by
  simp only [dueWarnings, List.mem_filterMap, Prod.exists, List.mem_zipIdx_iff_getElem?,
    dueWarning?_eq_some_iff]
  constructor
  · intro ⟨r, i, hr, hw⟩
    exact ⟨i, r, hr, hw⟩
  · intro ⟨i, r, hr, hw⟩
    exact ⟨r, i, hr, hw⟩

theorem dueWarnings_eq_nil_iff :
    s.dueWarnings policy = [] ↔ ∀ i r, s.records[i]? = some r →
      Primitive.ofToken? r.name = none → ¬ s.Misaligned policy i := by
  rw [List.eq_nil_iff_forall_not_mem]
  constructor
  · intro h i r hr hname hmis
    exact h _ (mem_dueWarnings_iff.mpr ⟨i, r, hr, hname, hmis, rfl⟩)
  · intro h w hw
    obtain ⟨i, r, hr, hname, hmis, _⟩ := mem_dueWarnings_iff.mp hw
    exact h i r hr hname hmis

end Schema

/-! ## Checks -/

variable {policy : NestedSizing} {s : Schema} {w : Warning}

/-- What a check says of a record by its capped size is what its exact size deserves. -/
theorem warningFor?_capped (policy : NestedSizing) (s : Schema) (e : Record × Nat) :
    Report.warningFor? (e.1.name, min (s.exactSize policy e.2) sizeCap) =
      s.dueWarning? policy e := by
  have hmis : min (s.exactSize policy e.2) sizeCap % wordSize ≠ 0 ↔ s.Misaligned policy e.2 :=
    capped_misaligned_iff _
  simp only [Report.warningFor?, Report.warning?, Schema.dueWarning?, Bool.and_eq_true,
    Option.isNone_iff_eq_none, bne_iff_ne, hmis]

/-- **A check warns where warnings are due.** -/
theorem warnings_eq_dueWarnings (policy : NestedSizing) (s : Schema) :
    (checkAlignment policy s).warnings = s.dueWarnings policy := by
  rw [Report.warnings_eq, sizes_checkAlignment, Schema.totals_eq_exactSize, Sizes.capped,
    List.map_map, List.filterMap_map]
  exact congrArg (List.filterMap · s.records.zipIdx) (funext (warningFor?_capped policy s))

/-- **What an aligned schema is.** Every record whose name is no primitive's has a size that
is a multiple of a word and no larger than the cap. -/
theorem isAligned_iff :
    (checkAlignment policy s).isAligned = true ↔ ∀ i r, s.records[i]? = some r →
      Primitive.ofToken? r.name = none →
      s.exactSize policy i % wordSize = 0 ∧ s.exactSize policy i ≤ sizeCap := by
  have haligned : ∀ i, ¬ s.Misaligned policy i ↔
      s.exactSize policy i % wordSize = 0 ∧ s.exactSize policy i ≤ sizeCap := by
    intro i
    unfold Schema.Misaligned
    omega
  simp only [Report.isAligned, warnings_eq_dueWarnings, List.isEmpty_iff,
    Schema.dueWarnings_eq_nil_iff, haligned]

/-- The size in a warning is misaligned itself, and its record is found by name. -/
theorem size_and_record_of_mem_dueWarnings (h : w ∈ s.dueWarnings policy) :
    w.size % wordSize ≠ 0 ∧ ∃ r, s.record? w.record = some r := by
  obtain ⟨i, r, hr, _, hmis, rfl⟩ := Schema.mem_dueWarnings_iff.mp h
  refine ⟨(capped_misaligned_iff _).mpr hmis, ?_⟩
  rw [← Option.ne_none_iff_exists', Ne, Schema.record?_eq_none_iff]
  intro hnone
  exact hnone r (List.mem_of_getElem? hr) rfl

/-- **Warnings are sound and complete.** A check gives, in schema order, one warning for each
record whose name is no primitive's and whose exact size is no multiple of a word or lies
above the cap. None that is misaligned is left out. The size told is the exact one, capped,
and no multiple of a word either, and the record is found by its name. A schema is aligned
exactly if no warning is due. -/
theorem warnings_sound_complete (policy : NestedSizing) (s : Schema) :
    (checkAlignment policy s).warnings = s.dueWarnings policy ∧
      (∀ i r, s.records[i]? = some r → Primitive.ofToken? r.name = none →
        s.exactSize policy i % wordSize ≠ 0 →
        ⟨r.name, min (s.exactSize policy i) sizeCap⟩ ∈ (checkAlignment policy s).warnings) ∧
      (∀ w ∈ (checkAlignment policy s).warnings,
        w.size % wordSize ≠ 0 ∧ ∃ r, s.record? w.record = some r) ∧
      ((checkAlignment policy s).isAligned = true ↔ s.dueWarnings policy = []) := by
  rw [Report.isAligned, warnings_eq_dueWarnings]
  refine ⟨rfl, ?complete, ?sound, List.isEmpty_iff⟩
  case complete =>
    intro i r hr hname hmis
    exact Schema.mem_dueWarnings_iff.mpr ⟨i, r, hr, hname, .inl hmis, rfl⟩
  case sound =>
    intro w hw
    exact size_and_record_of_mem_dueWarnings hw

/-- A record that doubles thirty times has `2 ^ 32` bytes: a multiple of a word, but more than
can be told. -/
example :
    (checkAlignment .resolve ⟨⟨"R", [⟨"a", .primitive .u32⟩]⟩ ::
      List.replicate 30 ⟨"R", [⟨"x", .named "R"⟩, ⟨"y", .named "R"⟩]⟩⟩).warnings =
      [⟨"R", 4294967295⟩] := by
  decide +kernel

end MemMap
