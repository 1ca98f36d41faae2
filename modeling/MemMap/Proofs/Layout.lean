import MemMap.Proofs.Struct
import MemMap.Proofs.Totals
import MemMap.Target.CHeader
import MemMap.Target.RustModule

/-!
# MemMap.Proofs.Layout

The memory layout that a generated source describes.

A reader of a source knows the fixed-width names of its language (`rustWidths`, `cWidths`)
and the structs it has met so far, and places the fields of each struct one after another
without padding (`Language.layouts?`). It knows nothing of schemas, primitives or checks,
and gives up at a spelling that it cannot size.

Three sides have to agree: the two readers, each of its own spellings, and the check. The
layout of the schema itself (`layoutsFrom`), sized as the check sizes fields but without a
cap, stands between them.

* `layouts?_structs` — either reader finds the layout of the schema;
* `map_total_layoutsFrom` — its totals are those that the check follows;
* `layouts_agree` — all three together.
-/

namespace MemMap

/-! ## Reading a layout from structs -/

structure Placed where
  name : String
  offset : Nat
  size : Nat
  deriving DecidableEq, Repr

/-- A struct with its fields at their places. -/
structure StructLayout where
  name : String
  fields : List Placed
  deriving DecidableEq, Repr

/-- The packed size of a struct: the sum of its field sizes, however large. -/
def StructLayout.total (l : StructLayout) : Nat := (l.fields.map (·.size)).sum

/-- Place lines one after another from an offset on, unless one cannot be sized. -/
def placeLines (size? : String → Option Nat) (offset : Nat) :
    List FieldLine → Option (List Placed)
  | [] => some []
  | l :: rest => do
    let size ← size? l.spelling
    let placed ← placeLines size? (offset + size) rest
    return ⟨l.name, offset, size⟩ :: placed

/-- A target language with the widths of its fixed-width names. -/
structure Language where
  profile : Profile
  widths : Sizes

namespace Language

/-- The size of a spelling: a fixed width, or else the size of the struct of that name among
those met so far. -/
def size? (lang : Language) (met : Sizes) (spelling : String) : Option Nat :=
  (lang.widths.get? spelling).or (met.get? spelling)

/-- The layouts of structs in order, each one known to those after it. -/
def layoutsFrom? (lang : Language) : Sizes → List Struct → Option (List StructLayout)
  | _, [] => some []
  | met, d :: rest => do
    let fields ← placeLines (lang.size? met) 0 d.lines
    let layout : StructLayout := ⟨d.name, fields⟩
    let layouts ← lang.layoutsFrom? ((layout.name, layout.total) :: met) rest
    return layout :: layouts

/-- The layouts that the source of a schema describes. -/
def layouts? (lang : Language) (s : Schema) : Option (List StructLayout) :=
  lang.layoutsFrom? [] (lang.profile.structs s)

end Language

/- The two languages. The tables are those of the languages themselves, and so stand apart
from `Primitive.size` and from the spellings that the profiles choose. -/

def rustWidths : Sizes :=
  [("u8", 1), ("u16", 2), ("u32", 4), ("i8", 1), ("i16", 2), ("i32", 4)]

def cWidths : Sizes :=
  [("uint8_t", 1), ("uint16_t", 2), ("uint32_t", 4),
    ("int8_t", 1), ("int16_t", 2), ("int32_t", 4)]

def rustLanguage : Language := ⟨rustModule, rustWidths⟩

def cLanguage : Language := ⟨cHeader, cWidths⟩

/-! ## Schemas that describe all their types -/

/-- A name that is no fixed-width name of either language. -/
def IsFresh (name : String) : Prop :=
  ∀ p ∈ Primitive.all, name ≠ p.token ∧ name ≠ p.cName

instance (name : String) : Decidable (IsFresh name) :=
  inferInstanceAs (Decidable (∀ p ∈ Primitive.all, name ≠ p.token ∧ name ≠ p.cName))

/-- A type that is a primitive or one of some names. -/
def TypeToken.IsKnown (seen : List String) : TypeToken → Prop
  | .primitive _ => True
  | .named name => name ∈ seen

instance (seen : List String) (t : TypeToken) : Decidable (t.IsKnown seen) :=
  match t with
  | .primitive _ => inferInstanceAs (Decidable True)
  | .named name => inferInstanceAs (Decidable (name ∈ seen))

/-- Every name used as a type is one seen before or that of an earlier record. -/
def DeclaredFrom : List String → List Record → Prop
  | _, [] => True
  | seen, r :: rest =>
    (∀ f ∈ r.fields, f.type.IsKnown seen) ∧ DeclaredFrom (r.name :: seen) rest

instance decidableDeclaredFrom :
    (seen : List String) → (rs : List Record) → Decidable (DeclaredFrom seen rs)
  | _, [] => inferInstanceAs (Decidable True)
  | seen, r :: rest =>
    have := decidableDeclaredFrom (r.name :: seen) rest
    inferInstanceAs (Decidable ((∀ f ∈ r.fields, f.type.IsKnown seen) ∧ _))

/-- A schema whose record names are distinct and free for use in both languages, and whose
fields name earlier records only. -/
structure Schema.SelfContained (s : Schema) : Prop where
  distinct : (s.records.map (·.name)).Nodup
  fresh : ∀ r ∈ s.records, IsFresh r.name
  declared : DeclaredFrom [] s.records

instance (s : Schema) : Decidable s.SelfContained :=
  decidable_of_iff
    ((s.records.map (·.name)).Nodup ∧ (∀ r ∈ s.records, IsFresh r.name) ∧
      DeclaredFrom [] s.records)
    ⟨fun ⟨hd, hf, hr⟩ => ⟨hd, hf, hr⟩, fun ⟨hd, hf, hr⟩ => ⟨hd, hf, hr⟩⟩

/-! ## The layout of a schema -/

/-- Fields one after another from an offset on, each of the size that it counts for. -/
def placeFields (known : Sizes) (offset : Nat) : List Field → List Placed
  | [] => []
  | f :: rest =>
    let size := fieldTotal .resolve known f.type
    ⟨f.name, offset, size⟩ :: placeFields known (offset + size) rest

/-- The layouts of records in order, each one known to those after it. -/
def layoutsFrom : Sizes → List Record → List StructLayout
  | _, [] => []
  | known, r :: rest =>
    let layout : StructLayout := ⟨r.name, placeFields known 0 r.fields⟩
    layout :: layoutsFrom ((layout.name, layout.total) :: known) rest

theorem sum_size_placeFields (known : Sizes) (offset : Nat) (fields : List Field) :
    ((placeFields known offset fields).map (·.size)).sum =
      packedTotal .resolve known fields := by
  induction fields generalizing offset with
  | nil => rfl
  | cons f rest ih => rw [placeFields, List.map_cons, List.sum_cons, ih, packedTotal_cons]

theorem map_total_layoutsFrom (known : Sizes) (rs : List Record) :
    (layoutsFrom known rs).map (fun l => (l.name, l.total)) = totalsFrom .resolve known rs := by
  induction rs generalizing known with
  | nil => rfl
  | cons r rest ih =>
      have htotal := sum_size_placeFields known 0 r.fields
      simp only [layoutsFrom, totalsFrom, List.map_cons, StructLayout.total, htotal]
      rw [← ih]
      rfl

theorem map_name_placeFields (known : Sizes) (offset : Nat) (fields : List Field) :
    (placeFields known offset fields).map (·.name) = fields.map (·.name) := by
  induction fields generalizing offset with
  | nil => rfl
  | cons f rest ih => rw [placeFields, List.map_cons, List.map_cons, ih]

theorem map_names_layoutsFrom (known : Sizes) (rs : List Record) :
    (layoutsFrom known rs).map (fun l => (l.name, l.fields.map (·.name))) =
      rs.map (fun r => (r.name, r.fields.map (·.name))) := by
  induction rs generalizing known with
  | nil => rfl
  | cons r rest ih =>
      simp only [layoutsFrom, List.map_cons, map_name_placeFields, ih]

/-! ## Readers find the layout of the schema -/

/-- What ties a language's spellings to its widths: primitives are spelled by fixed-width
names, every other type by its own name, and fresh names have no fixed width. -/
structure Language.Spells (lang : Language) : Prop where
  primitive : ∀ p, lang.widths.get? (lang.profile.typeName (.primitive p)) = some p.size
  named : ∀ name, lang.profile.typeName (.named name) = name
  fresh : ∀ name, IsFresh name → lang.widths.get? name = none

theorem get?_map_all_eq_none {name : String} {spell : Primitive → String}
    (h : ∀ p ∈ Primitive.all, name ≠ spell p) :
    Sizes.get? (Primitive.all.map fun p => (spell p, p.size)) name = none := by
  rw [Sizes.get?_eq_none_iff, List.map_map]
  intro hmem
  obtain ⟨p, hp, heq⟩ := List.mem_map.mp hmem
  exact h p hp heq.symm

theorem spells_rustLanguage : rustLanguage.Spells where
  primitive p := by cases p <;> decide
  named _ := rfl
  fresh _ h := get?_map_all_eq_none fun p hp => (h p hp).1

theorem spells_cLanguage : cLanguage.Spells where
  primitive p := by cases p <;> decide
  named _ := rfl
  fresh _ h := get?_map_all_eq_none fun p hp => (h p hp).2

/-- A type that the structs met so far can size is sized by its spelling as the check sizes
it. -/
theorem size?_typeName {lang : Language} (hl : lang.Spells) {met : Sizes}
    (hmet : ∀ name ∈ met.map Prod.fst, IsFresh name) {t : TypeToken}
    (ht : t.IsKnown (met.map Prod.fst)) :
    lang.size? met (lang.profile.typeName t) = some (fieldTotal .resolve met t) := by
  cases t with
  | primitive p =>
      rw [Language.size?, hl.primitive, Option.some_or]
      rfl
  | named name =>
      rw [Language.size?, hl.named, hl.fresh name (hmet name ht), Option.none_or]
      cases hget : met.get? name with
      | none => exact absurd ht (Sizes.get?_eq_none_iff.mp hget)
      | some n => simp [fieldTotal, fieldSize?, hget]

theorem placeLines_map_lineOf {p : Profile} {size? : String → Option Nat} {known : Sizes}
    {fields : List Field} (offset : Nat)
    (h : ∀ f ∈ fields, size? (p.typeName f.type) = some (fieldTotal .resolve known f.type)) :
    placeLines size? offset (fields.map p.lineOf) = some (placeFields known offset fields) := by
  induction fields generalizing offset with
  | nil => rfl
  | cons f rest ih =>
      rw [List.map_cons, placeLines, Profile.lineOf, h f List.mem_cons_self, Option.bind_eq_bind,
        Option.bind_some, ih _ fun g hg => h g (List.mem_cons_of_mem f hg)]
      rfl

/-- **A reader's layouts.** From structs met so far, all of fresh names, a reader finds the
layouts of the records to come. -/
theorem layoutsFrom?_map_structOf {lang : Language} (hl : lang.Spells) (met : Sizes)
    (rs : List Record) (hmet : ∀ name ∈ met.map Prod.fst, IsFresh name)
    (hfresh : ∀ r ∈ rs, IsFresh r.name) (hdecl : DeclaredFrom (met.map Prod.fst) rs) :
    lang.layoutsFrom? met (rs.map lang.profile.structOf) = some (layoutsFrom met rs) := by
  induction rs generalizing met with
  | nil => rfl
  | cons r rest ih =>
      have hplace : placeLines (lang.size? met) 0 (r.fields.map lang.profile.lineOf) =
          some (placeFields met 0 r.fields) :=
        placeLines_map_lineOf 0 fun f hf => size?_typeName hl hmet (hdecl.1 f hf)
      -- The struct just placed joins those met, so its name has to be fresh as well.
      have hmet' : ∀ name ∈ r.name :: met.map Prod.fst, IsFresh name := by
        intro name hname
        rcases List.mem_cons.mp hname with rfl | hname
        · exact hfresh r List.mem_cons_self
        · exact hmet name hname
      have hrest := ih
        ((r.name, (StructLayout.mk r.name (placeFields met 0 r.fields)).total) :: met)
        hmet' (fun q hq => hfresh q (List.mem_cons_of_mem r hq)) hdecl.2
      simp only [List.map_cons, Profile.structOf, Language.layoutsFrom?, hplace, hrest,
        Option.bind_eq_bind, Option.bind_some, layoutsFrom]
      rfl

theorem layouts?_structs {lang : Language} (hl : lang.Spells) {s : Schema}
    (hs : s.SelfContained) : lang.layouts? s = some (layoutsFrom [] s.records) :=
  layoutsFrom?_map_structOf hl [] s.records (fun _ h => absurd h List.not_mem_nil) hs.fresh
    hs.declared

/-! ## Agreement -/

/-- A record of a self-contained schema whose total fits under the cap is warned about
exactly if that total is no multiple of a word. -/
theorem mem_warnings_iff_of_mem_totals {s : Schema} (hs : s.SelfContained) {name : String}
    {total : Nat} (h : (name, total) ∈ s.totals .resolve) (hfit : total ≤ sizeCap) :
    ⟨name, total⟩ ∈ (checkAlignment .resolve s).warnings ↔ total % wordSize ≠ 0 := by
  have hmem : (name, total) ∈ (checkAlignment .resolve s).sizes := by
    rw [sizes_checkAlignment, ← Nat.min_eq_left hfit]
    exact Sizes.mem_capped_of_mem h
  have hname : name ∈ s.records.map (·.name) := by
    rw [← map_fst_totalsFrom .resolve []]
    exact List.mem_map_of_mem h
  have htoken : Primitive.ofToken? name = none := by
    obtain ⟨r, hr, rfl⟩ := List.mem_map.mp hname
    rw [Option.eq_none_iff_forall_ne_some]
    intro p hp
    exact (hs.fresh r hr p p.mem_all).1 (Primitive.ofToken?_eq_some_iff.mp hp).symm
  rw [Report.mem_warnings_iff]
  exact ⟨fun hw => hw.2.2, fun hw => ⟨hmem, htoken, hw⟩⟩

/-- **The three sides agree.** Both sources of a self-contained schema are written from
structs in which either reader finds the same fields at the same offsets with the same
sizes, for every record in order. The check reports each total, capped; so whenever a total
fits under the cap it is the size reported, and the record is warned about exactly if that
total is no multiple of a word. -/
theorem layouts_agree (s : Schema) (hs : s.SelfContained) :
    rustModule.render s = rustModule.write (rustModule.structs s) ∧
    cHeader.render s = cHeader.write (cHeader.structs s) ∧
    ∃ layouts : List StructLayout,
      rustLanguage.layouts? s = some layouts ∧ cLanguage.layouts? s = some layouts ∧
      layouts.map (fun l => (l.name, l.fields.map (·.name))) =
        s.records.map (fun r => (r.name, r.fields.map (·.name))) ∧
      ∀ l ∈ layouts,
        (checkAlignment .resolve s).recordSize? l.name = some (min l.total sizeCap) ∧
        (l.total ≤ sizeCap →
          (checkAlignment .resolve s).recordSize? l.name = some l.total ∧
          (⟨l.name, l.total⟩ ∈ (checkAlignment .resolve s).warnings ↔
            l.total % wordSize ≠ 0)) := by
  refine ⟨Profile.render_eq_write _ s, Profile.render_eq_write _ s, layoutsFrom [] s.records,
    layouts?_structs spells_rustLanguage hs, layouts?_structs spells_cLanguage hs,
    map_names_layoutsFrom [] s.records, fun l hl => ?_⟩
  have hmem : (l.name, l.total) ∈ s.totals .resolve := by
    rw [Schema.totals, ← map_total_layoutsFrom]
    exact List.mem_map_of_mem hl
  have hsize := recordSize?_checkAlignment_of_mem hs.distinct hmem
  refine ⟨hsize, fun hfit => ⟨?_, mem_warnings_iff_of_mem_totals hs hmem hfit⟩⟩
  rw [hsize, Nat.min_eq_left hfit]

/-- A record of a byte and a half-word, and one that nests it twice. -/
def nestedSchema : Schema :=
  ⟨[⟨"Inner", [⟨"a", .primitive .u8⟩, ⟨"b", .primitive .i16⟩]⟩,
    ⟨"Outer", [⟨"x", .named "Inner"⟩, ⟨"y", .primitive .u32⟩, ⟨"z", .named "Inner"⟩]⟩]⟩

theorem layouts_agree_nested :
    nestedSchema.SelfContained ∧
    rustLanguage.layouts? nestedSchema = cLanguage.layouts? nestedSchema ∧
    (checkAlignment .resolve nestedSchema).recordSize? "Outer" = some 10 ∧
    ⟨"Outer", 10⟩ ∈ (checkAlignment .resolve nestedSchema).warnings := by
  have hs : nestedSchema.SelfContained := by decide
  obtain ⟨-, -, layouts, hrust, hc, -, hsizes⟩ := layouts_agree nestedSchema hs
  have hlayouts : rustLanguage.layouts? nestedSchema = some
      [⟨"Inner", [⟨"a", 0, 1⟩, ⟨"b", 1, 2⟩]⟩,
        ⟨"Outer", [⟨"x", 0, 3⟩, ⟨"y", 3, 4⟩, ⟨"z", 7, 3⟩]⟩] := by decide
  rw [hrust, Option.some.injEq] at hlayouts
  have houter := (hsizes ⟨"Outer", [⟨"x", 0, 3⟩, ⟨"y", 3, 4⟩, ⟨"z", 7, 3⟩]⟩
    (by rw [hlayouts]; decide)).2 (by decide)
  exact ⟨hs, hrust.trans hc.symm, houter.1, houter.2.mpr (by decide)⟩

end MemMap
