import MemMap.Proofs.Order

/-!
# MemMap.Proofs.Append

What records added at the end of a schema do to its report.

The check measures records in order and looks names up among those it has passed, so it has
measured the front of a schema before it meets the back. What it says of the front is said for
good: a name used there that the back declares stays unknown, and a name declared again has
its new size from then on only. The back in turn depends on the front through the sizes that
are found under the names its fields use (`measureFrom_congr`), and these are the sizes that
the report of the front alone gives.

* `measured_append` — the front as if it were alone, then the back;
* `recordSize?_append` — a name is looked up in the back, and then in the front;
* `append_revises_nothing` — what the two reports have in common.
-/

namespace MemMap

variable {policy : NestedSizing} {known other : Sizes}

/-! ## Names that are used -/

/-- Whether a field of one of the records is of the type that bears the name. -/
def Mentioned (rs : List Record) (name : String) : Prop := ∃ r ∈ rs, r.Mentions name

instance (rs : List Record) (name : String) : Decidable (Mentioned rs name) :=
  inferInstanceAs (Decidable (∃ r ∈ rs, r.Mentions name))

theorem fieldSize?_congr {t : TypeToken}
    (h : ∀ name, t = .named name → known.get? name = other.get? name) :
    fieldSize? policy known t = fieldSize? policy other t := by
  cases t with
  | primitive p => rfl
  | named name =>
      cases policy with
      | skip => rfl
      | resolve => exact h name rfl

/-- **One record.** It is measured by the sizes found under the names it uses. -/
theorem measure_congr {r : Record}
    (h : ∀ name, r.Mentions name → known.get? name = other.get? name) :
    measure policy known r = measure policy other r := by
  have hfield : ∀ f ∈ r.fields,
      fieldSize? policy known f.type = fieldSize? policy other f.type :=
    fun f hf => fieldSize?_congr fun name hname => h name ⟨f, hf, hname⟩
  have hsize : packedSize policy known r.fields = packedSize policy other r.fields :=
    List.foldl_ext _ _ _ fun total f hf => by rw [hfield f hf]
  have hunresolved : r.fields.filter (fun f => (fieldSize? policy known f.type).isNone) =
      r.fields.filter (fun f => (fieldSize? policy other f.type).isNone) :=
    List.filter_congr fun f hf => by rw [hfield f hf]
  rw [measure, measure, hsize, hunresolved]

/-- **All records.** Two tables that agree on the names used by some records measure them
alike: whatever a record adds, it adds to both. -/
theorem measureFrom_congr {rs : List Record}
    (h : ∀ name, Mentioned rs name → known.get? name = other.get? name) :
    measureFrom policy known rs = measureFrom policy other rs := by
  induction rs generalizing known other with
  | nil => rfl
  | cons r rest ih =>
      have hr : measure policy known r = measure policy other r :=
        measure_congr fun name hname => h name ⟨r, List.mem_cons_self, hname⟩
      rw [measureFrom, measureFrom, hr]
      refine congrArg _ (ih fun name hname => ?_)
      obtain ⟨q, hq, hmentions⟩ := hname
      rw [Sizes.get?_cons, Sizes.get?_cons, h name ⟨q, List.mem_cons_of_mem r hq, hmentions⟩]

/-! ## Front and back -/

/-- What the check makes of the back of a schema, after its front. -/
def measureAfter (policy : NestedSizing) (front back : List Record) : List Measured :=
  measureFrom policy (sizesAfter [] (checkAlignment policy ⟨front⟩).measured) back

theorem measured_append (policy : NestedSizing) (front back : List Record) :
    (checkAlignment policy ⟨front ++ back⟩).measured =
      (checkAlignment policy ⟨front⟩).measured ++ measureAfter policy front back :=
  measureFrom_append policy [] front back

theorem map_name_measureAfter (policy : NestedSizing) (front back : List Record) :
    (measureAfter policy front back).map (·.name) = back.map (·.name) :=
  map_name_measureFrom policy _ back

theorem warnings_append (policy : NestedSizing) (front back : List Record) :
    (checkAlignment policy ⟨front ++ back⟩).warnings =
      (checkAlignment policy ⟨front⟩).warnings ++
        (measureAfter policy front back).filterMap Report.warning? := by
  rw [Report.warnings, measured_append, List.filterMap_append]
  rfl

/-- The size of a name is that of the last record of that name in the back, if there is one,
and otherwise the one reported of the front. -/
theorem recordSize?_append (policy : NestedSizing) (front back : List Record) (name : String) :
    (checkAlignment policy ⟨front ++ back⟩).recordSize? name =
      ((sizesAfter [] (measureAfter policy front back)).get? name).or
        ((checkAlignment policy ⟨front⟩).recordSize? name) := by
  simp only [Report.recordSize?, measured_append, sizesAfter, List.map_append,
    List.reverse_append, List.append_nil, Sizes.get?, List.lookup_append]

/-- A name is found in the back exactly if a record of the back bears it. -/
theorem get?_measureAfter_eq_none_iff {front back : List Record} {name : String} :
    (sizesAfter [] (measureAfter policy front back)).get? name = none ↔
      ∀ r ∈ back, r.name ≠ name := by
  have hnames : (sizesAfter [] (measureAfter policy front back)).map Prod.fst =
      (back.map (·.name)).reverse := by
    rw [sizesAfter, List.append_nil, List.map_reverse, List.map_map,
      ← map_name_measureAfter policy front back]
    rfl
  rw [Sizes.get?_eq_none_iff, hnames, List.mem_reverse]
  simp

/-- **What the back owes to the front.** Two fronts that report the same size for each name
that the back uses have it measured alike. -/
theorem measureAfter_congr {front front' back : List Record}
    (h : ∀ name, Mentioned back name → (checkAlignment policy ⟨front'⟩).recordSize? name =
      (checkAlignment policy ⟨front⟩).recordSize? name) :
    measureAfter policy front' back = measureAfter policy front back :=
  measureFrom_congr h

/-! ## Reports -/

/-- **Appending revises nothing.** The warnings of a schema begin with those of its front
alone. A name that no record of the back bears is reported as it is of the front alone. What
is reported of the back, warnings and sizes, is the same behind every front that reports the
same size for each name the fields of the back use. -/
theorem append_revises_nothing (policy : NestedSizing) (front back : List Record) :
    (checkAlignment policy ⟨front⟩).warnings <+:
        (checkAlignment policy ⟨front ++ back⟩).warnings ∧
      (∀ name, (∀ r ∈ back, r.name ≠ name) →
        (checkAlignment policy ⟨front ++ back⟩).recordSize? name =
          (checkAlignment policy ⟨front⟩).recordSize? name) ∧
      ∀ front', (∀ name, Mentioned back name →
          (checkAlignment policy ⟨front'⟩).recordSize? name =
            (checkAlignment policy ⟨front⟩).recordSize? name) →
        (∀ r ∈ back, (checkAlignment policy ⟨front' ++ back⟩).recordSize? r.name =
          (checkAlignment policy ⟨front ++ back⟩).recordSize? r.name) ∧
        ∃ later, (checkAlignment policy ⟨front ++ back⟩).warnings =
            (checkAlignment policy ⟨front⟩).warnings ++ later ∧
          (checkAlignment policy ⟨front' ++ back⟩).warnings =
            (checkAlignment policy ⟨front'⟩).warnings ++ later := by
  refine ⟨?front, fun name hname => ?elsewhere, fun front' h => ⟨fun r hr => ?back, ?warnings⟩⟩
  case front => exact ⟨_, (warnings_append policy front back).symm⟩
  case elsewhere =>
    rw [recordSize?_append, get?_measureAfter_eq_none_iff.mpr hname, Option.none_or]
  case back =>
    have hfound : (sizesAfter [] (measureAfter policy front back)).get? r.name ≠ none :=
      fun hnone => get?_measureAfter_eq_none_iff.mp hnone r hr rfl
    obtain ⟨n, hn⟩ := Option.ne_none_iff_exists'.mp hfound
    rw [recordSize?_append, recordSize?_append, measureAfter_congr h, hn, Option.some_or,
      Option.some_or]
  case warnings =>
    have hfront' := warnings_append policy front' back
    rw [measureAfter_congr h] at hfront'
    exact ⟨_, warnings_append policy front back, hfront'⟩

def firstRecords : List Record :=
  [⟨"A", [⟨"x", .primitive .u8⟩, ⟨"y", .primitive .u16⟩]⟩, ⟨"X", [⟨"b", .named "B"⟩]⟩]

/-- Other records that have the same size for `A`. -/
def otherRecords : List Record :=
  [⟨"B", [⟨"x", .primitive .u32⟩]⟩, ⟨"A", [⟨"y", .primitive .u16⟩, ⟨"x", .primitive .u8⟩]⟩]

/-- Records that use `A` and declare it again. -/
def laterRecords : List Record :=
  [⟨"C", [⟨"a", .named "A"⟩, ⟨"b", .named "A"⟩]⟩, ⟨"A", [⟨"c", .named "C"⟩, ⟨"z", .primitive .u8⟩]⟩]

theorem append_revises_nothing_declared_again :
    (checkAlignment .resolve ⟨firstRecords ++ laterRecords⟩).warnings =
        [⟨"A", 3⟩, ⟨"C", 6⟩, ⟨"A", 7⟩] ∧
      (checkAlignment .resolve ⟨firstRecords ++ laterRecords⟩).recordSize? "X" = some 0 ∧
      (checkAlignment .resolve ⟨otherRecords ++ laterRecords⟩).recordSize? "A" = some 7 := by
  obtain ⟨-, helsewhere, hback⟩ :=
    append_revises_nothing .resolve firstRecords laterRecords
  have hused : ∀ name, Mentioned laterRecords name →
      (checkAlignment .resolve ⟨otherRecords⟩).recordSize? name =
        (checkAlignment .resolve ⟨firstRecords⟩).recordSize? name := by
    intro name hname
    have hcases : name = "A" ∨ name = "C" := by
      simpa [Mentioned, Record.Mentions, laterRecords, eq_comm] using hname
    rcases hcases with rfl | rfl <;> decide
  obtain ⟨hsizes, -⟩ := hback otherRecords hused
  refine ⟨by decide, (helsewhere "X" (by decide)).trans (by decide), ?_⟩
  exact (hsizes ⟨"A", [⟨"c", .named "C"⟩, ⟨"z", .primitive .u8⟩]⟩ (by decide)).trans (by decide)

end MemMap
