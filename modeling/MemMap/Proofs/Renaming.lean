import Mathlib.Logic.Equiv.Basic
import MemMap.Proofs.Order

/-!
# MemMap.Proofs.Renaming

What the check makes of names.

A name is compared with other names, and with the spellings of the primitives when a warning
is due; nothing else is asked of it. So a renaming that keeps different names different, and
leaves the primitives' spellings alone, takes the whole check with it: the table of sizes is
the same with every name renamed, a look-up under a new name finds what the old name found,
and warnings change their names and nothing else. The names of fields are not looked at.

* `get?_rename` — look-ups in a renamed table;
* `totals_rename` — the totals of a renamed schema;
* `check_rename` — the report of a renamed schema.
-/

namespace MemMap

/-! ## Renamings -/

/-- A way to rename records that keeps different names different and the spellings of the
primitives as they are. -/
structure Renaming where
  map : String → String
  injective : Function.Injective map
  map_token : ∀ p : Primitive, map p.token = p.token

variable {h : Renaming} {policy : NestedSizing} {known : Sizes}

/-- A type with its name renamed. Primitives have none, even where a record is named like
one. -/
def TypeToken.rename (h : Renaming) : TypeToken → TypeToken
  | .primitive p => .primitive p
  | .named name => .named (h.map name)

/-- A record and one with its name and the names in its types renamed. The names of its fields
may be any. -/
structure Record.Renamed (h : Renaming) (r q : Record) : Prop where
  name : q.name = h.map r.name
  types : q.fields.map (·.type) = r.fields.map fun f => f.type.rename h

/-- A table with its names renamed. -/
def Sizes.rename (h : Renaming) (sizes : Sizes) : Sizes :=
  sizes.map fun e => (h.map e.1, e.2)

/-- A warning of the renamed record. -/
def Warning.rename (h : Renaming) (w : Warning) : Warning :=
  ⟨h.map w.record, w.size⟩

/-! ## Totals -/

@[simp] theorem Sizes.rename_cons (name : String) (n : Nat) (sizes : Sizes) :
    Sizes.rename h ((name, n) :: sizes) = (h.map name, n) :: sizes.rename h := rfl

/-- **Look-ups.** A new name finds what the old one found. -/
theorem Sizes.get?_rename (sizes : Sizes) (name : String) :
    (sizes.rename h).get? (h.map name) = sizes.get? name := by
  induction sizes with
  | nil => rfl
  | cons e rest ih =>
      rw [rename_cons, get?_cons, ih, get?_cons]
      simp only [h.injective.eq_iff]

theorem fieldTotal_rename (t : TypeToken) :
    fieldTotal policy (known.rename h) (t.rename h) = fieldTotal policy known t := by
  cases t with
  | primitive p => rfl
  | named name =>
      cases policy with
      | skip => rfl
      | resolve => exact congrArg (Option.getD · 0) (Sizes.get?_rename known name)

/-- A total is made from the types of the fields. -/
theorem packedTotal_eq_sum_types (policy : NestedSizing) (known : Sizes) (fields : List Field) :
    packedTotal policy known fields =
      ((fields.map (·.type)).map (fieldTotal policy known)).sum := by
  rw [List.map_map]
  rfl

theorem packedTotal_rename {r q : Record} (hrq : r.Renamed h q) :
    packedTotal policy (known.rename h) q.fields = packedTotal policy known r.fields := by
  rw [packedTotal_eq_sum_types, hrq.types, packedTotal_eq_sum_types, List.map_map, List.map_map]
  exact congrArg List.sum (List.map_congr_left fun f _ => fieldTotal_rename f.type)

/-- **All records.** The walk through renamed records hands on the renamed table. -/
theorem totalsFrom_rename (known : Sizes) {rs qs : List Record}
    (hrq : List.Forall₂ (Record.Renamed h) rs qs) :
    totalsFrom policy (known.rename h) qs = (totalsFrom policy known rs).rename h := by
  induction hrq generalizing known with
  | nil => rfl
  | cons hrq _ ih =>
      rw [totalsFrom, totalsFrom, packedTotal_rename hrq, hrq.name, Sizes.rename_cons, ← ih,
        Sizes.rename_cons]

theorem totals_rename {s t : Schema}
    (hst : List.Forall₂ (Record.Renamed h) s.records t.records) :
    t.totals policy = (s.totals policy).rename h :=
  totalsFrom_rename [] hst

/-! ## Reports -/

theorem Sizes.capped_rename (sizes : Sizes) :
    (sizes.rename h).capped = sizes.capped.rename h := by
  simp [capped, rename]

/-- A new name spells a primitive exactly if the old one does. -/
theorem ofToken?_map (name : String) :
    Primitive.ofToken? (h.map name) = Primitive.ofToken? name := by
  refine Option.ext fun p => ?_
  rw [Primitive.ofToken?_eq_some_iff, Primitive.ofToken?_eq_some_iff, ← h.map_token p,
    h.injective.eq_iff, h.map_token p]

theorem warningFor?_rename (name : String) (n : Nat) :
    Report.warningFor? (h.map name, n) =
      (Report.warningFor? (name, n)).map (Warning.rename h) := by
  simp only [Report.warningFor?, Report.warning?, ofToken?_map]
  split <;> rfl

/-- **Names are compared, and nothing else.** The report of a renamed schema has the same
warnings in the same order, each with its name renamed and its size as it was, and under each
new name the size that was reported under the old one. -/
theorem check_rename (h : Renaming) (policy : NestedSizing) (s t : Schema)
    (hst : List.Forall₂ (Record.Renamed h) s.records t.records) :
    (checkAlignment policy t).warnings =
        (checkAlignment policy s).warnings.map (Warning.rename h) ∧
      ∀ name, (checkAlignment policy t).recordSize? (h.map name) =
        (checkAlignment policy s).recordSize? name := by
  have hsizes : (checkAlignment policy t).sizes = (checkAlignment policy s).sizes.rename h := by
    rw [sizes_checkAlignment, sizes_checkAlignment, totals_rename hst, Sizes.capped_rename]
  constructor
  · rw [Report.warnings_eq, Report.warnings_eq, hsizes, List.map_filterMap, Sizes.rename,
      List.filterMap_map]
    exact List.filterMap_congr fun e _ => warningFor?_rename e.1 e.2
  · intro name
    have hreverse : ((checkAlignment policy s).sizes.rename h).reverse =
        Sizes.rename h (checkAlignment policy s).sizes.reverse := List.map_reverse.symm
    rw [Report.recordSize?_eq, Report.recordSize?_eq, hsizes, hreverse, Sizes.get?_rename]

/-- The renaming that exchanges `A` and `B`. -/
def exchangeNames : Renaming where
  map := Equiv.swap "A" "B"
  injective := (Equiv.swap "A" "B").injective
  map_token := by
    intro p
    cases p <;> decide

/-- Records with a field of their own type, one of a later record, repeated names and the name
of a primitive. -/
def manyNames : Schema :=
  ⟨[⟨"A", [⟨"x", .primitive .u8⟩, ⟨"b", .named "B"⟩, ⟨"a", .named "A"⟩]⟩,
    ⟨"u8", [⟨"a", .named "A"⟩]⟩,
    ⟨"B", [⟨"a", .named "A"⟩, ⟨"y", .primitive .u16⟩, ⟨"c", .named "u8"⟩]⟩,
    ⟨"A", [⟨"b", .named "B"⟩, ⟨"z", .primitive .u8⟩]⟩]⟩

/-- The same with `A` and `B` exchanged, and with other names for the fields. -/
def manyOtherNames : Schema :=
  ⟨[⟨"B", [⟨"p", .primitive .u8⟩, ⟨"p", .named "A"⟩, ⟨"q", .named "B"⟩]⟩,
    ⟨"u8", [⟨"", .named "B"⟩]⟩,
    ⟨"A", [⟨"A", .named "B"⟩, ⟨"r", .primitive .u16⟩, ⟨"r", .named "u8"⟩]⟩,
    ⟨"B", [⟨"s", .named "A"⟩, ⟨"u8", .primitive .u8⟩]⟩]⟩

theorem check_rename_exchanged :
    (checkAlignment .resolve manyOtherNames).warnings = [⟨"B", 1⟩, ⟨"B", 5⟩] ∧
      (checkAlignment .resolve manyOtherNames).recordSize? "B" = some 5 ∧
      (checkAlignment .resolve manyOtherNames).recordSize? "u8" = some 1 := by
  have hrenamed : List.Forall₂ (Record.Renamed exchangeNames) manyNames.records
      manyOtherNames.records := by
    refine .cons ⟨?_, ?_⟩ (.cons ⟨?_, ?_⟩ (.cons ⟨?_, ?_⟩ (.cons ⟨?_, ?_⟩ .nil))) <;> decide
  obtain ⟨hwarnings, hsize⟩ := check_rename exchangeNames .resolve _ _ hrenamed
  refine ⟨hwarnings.trans (by decide), (hsize "A").trans (by decide), ?_⟩
  exact (hsize "u8").trans (by decide)

end MemMap
