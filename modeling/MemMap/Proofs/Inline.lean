import MemMap.Proofs.Totals

/-!
# MemMap.Proofs.Inline

Nested records written out in place.

`Schema.flatten` replaces every field that names an earlier record by the fields of the
latest earlier record of that name, which have been written out already. What is left are
primitives and names that no earlier record bears, so the policy that skips names measures
a flattened schema as the policy that resolves them measures the schema itself. Written out
schemas may be exponentially longer; the invariant of the walk ties each list of fields
written out so far to the one number that the check keeps for it.

* `totals_flatten` — flattening keeps every total;
* `resolve_eq_skip_flatten` — the two checks report the same.
-/

namespace MemMap

/-! ## Writing out -/

/-- Records with their fields written out, the latest first. -/
abbrev Expansions := List (String × List Field)

/-- A field that names a record among those written out becomes that record's fields; every
other field stays. -/
def Field.expand (known : Expansions) (f : Field) : List Field :=
  match f.type with
  | .primitive _ => [f]
  | .named name => (known.lookup name).getD [f]

/-- Write out the fields of records in order; each one is known to those after it. -/
def flattenFrom : Expansions → List Record → List Record
  | _, [] => []
  | known, r :: rest =>
    let fields := r.fields.flatMap (Field.expand known)
    ⟨r.name, fields⟩ :: flattenFrom ((r.name, fields) :: known) rest

/-- The schema with every nested record written out in place. -/
def Schema.flatten (s : Schema) : Schema :=
  ⟨flattenFrom [] s.records⟩

/-! ## Totals of written out fields -/

theorem packedTotal_skip (known : Sizes) (fields : List Field) :
    packedTotal .skip known fields = packedTotal .skip [] fields := by
  refine congrArg List.sum (List.map_congr_left fun f _ => ?_)
  unfold fieldTotal
  cases f.type <;> rfl

/-- What the fields written out for each record add up to. -/
def Expansions.totals (known : Expansions) : Sizes :=
  known.map fun e => (e.1, packedTotal .skip [] e.2)

/-- A written out field adds up to what the field counts for. -/
theorem packedTotal_expand (known : Expansions) (f : Field) :
    packedTotal .skip [] (f.expand known) = fieldTotal .resolve known.totals f.type := by
  obtain ⟨fieldName, type⟩ := f
  cases type with
  | primitive p => rfl
  | named name =>
      have hlook : known.totals.get? name = (known.lookup name).map (packedTotal .skip []) :=
        lookup_map_value (packedTotal .skip []) known name
      simp only [Field.expand, fieldTotal, fieldSize?, hlook]
      cases known.lookup name <;> rfl

theorem packedTotal_flatMap_expand (known : Expansions) (fields : List Field) :
    packedTotal .skip [] (fields.flatMap (Field.expand known)) =
      packedTotal .resolve known.totals fields := by
  induction fields with
  | nil => rfl
  | cons f rest ih =>
      rw [List.flatMap_cons, packedTotal_append, packedTotal_expand, ih, packedTotal_cons]

/-- **Flattening keeps totals, from any record on.** The sizes known under `resolve` are
what the fields written out so far add up to; those known under `skip` are never used. -/
theorem totalsFrom_flattenFrom (known : Expansions) (sizes : Sizes) (rs : List Record) :
    totalsFrom .skip sizes (flattenFrom known rs) = totalsFrom .resolve known.totals rs := by
  induction rs generalizing known sizes with
  | nil => rfl
  | cons r rest ih =>
      have htotal := packedTotal_flatMap_expand known r.fields
      simp only [flattenFrom, totalsFrom]
      rw [packedTotal_skip sizes, ih, Expansions.totals, List.map_cons, htotal]
      rfl

theorem totals_flatten (s : Schema) : s.flatten.totals .skip = s.totals .resolve :=
  totalsFrom_flattenFrom [] [] s.records

/-! ## Checks -/

/-- **Resolving is skipping after flattening.** A check that resolves names gives the
warnings, in order, and the size of every name that a check of the flattened schema gives
without looking any name up. -/
theorem resolve_eq_skip_flatten (s : Schema) :
    (checkAlignment .resolve s).warnings = (checkAlignment .skip s.flatten).warnings ∧
      ∀ name, (checkAlignment .resolve s).recordSize? name =
        (checkAlignment .skip s.flatten).recordSize? name :=
  report_eq_of_totals_eq (totals_flatten s).symm

end MemMap
