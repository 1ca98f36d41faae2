import MemMap.Proofs.Struct
import MemMap.Target.CHeader
import MemMap.Target.RustModule

/-!
# MemMap.Proofs.Readable

Generated sources can be read back.

A source is a run of lines around names of any length, so what has to be found again are its
boundaries: where a line ends, which line closes a struct, where the last struct ends, and
where a field's name and the spelling of its type meet. `Profile.Readable` states what a
syntax must offer for that, one fact for each boundary, and `write_inj` derives that such a
syntax loses nothing of the structs it writes. The two languages differ in one point only:
Rust separates a name from its type at the first colon, C a type from its name at the last
space.

* `render_eq_iff` — equal sources are those of equal structs;
* `readable_rustModule`, `readable_cHeader` — both languages are readable;
* `sources_lose_nothing` — what equal sources say about the schemas behind them.
-/

namespace MemMap

/-! ## Cutting lists at a mark -/

/-- The first mark of a list tells the two parts around it; so does the last. -/
theorem cut_first {α : Type} {c : α} {a b x y : List α} (ha : c ∉ a) (hb : c ∉ b)
    (h : a ++ c :: x = b ++ c :: y) : a = b ∧ x = y := by
  rcases List.append_eq_append_iff.mp h with ⟨d, rfl, hd⟩ | ⟨d, rfl, hd⟩
  · cases d with
    | nil => simpa using hd
    | cons e d =>
        obtain ⟨rfl, -⟩ := List.cons.inj hd
        exact absurd (List.mem_append_right a List.mem_cons_self) hb
  · cases d with
    | nil => simpa [eq_comm] using hd
    | cons e d =>
        obtain ⟨rfl, -⟩ := List.cons.inj hd
        exact absurd (List.mem_append_right b List.mem_cons_self) ha

theorem cut_last {α : Type} {c : α} {a b x y : List α} (hx : c ∉ x) (hy : c ∉ y)
    (h : a ++ c :: x = b ++ c :: y) : a = b ∧ x = y := by
  have hrev := congrArg List.reverse h
  simp only [List.reverse_append, List.reverse_cons, List.append_assoc,
    List.singleton_append] at hrev
  rw [← List.mem_reverse] at hx hy
  obtain ⟨hxy, hab⟩ := cut_first hx hy hrev
  exact ⟨List.reverse_inj.mp hab, List.reverse_inj.mp hxy⟩

/-! ## Plain structs -/

/-- A text that stays on its line. -/
def OneLine (text : String) : Prop := '\n' ∉ text.toList

instance (text : String) : Decidable (OneLine text) :=
  inferInstanceAs (Decidable ('\n' ∉ text.toList))

theorem oneLine_append {a b : String} (ha : OneLine a) (hb : OneLine b) : OneLine (a ++ b) := by
  unfold OneLine at *
  simp [ha, hb]

/-- A text that stays on its line, followed by what ends the line, tells where it ends. -/
theorem line_inj {ending : List Char} {a b : String} {x y : List Char} (ha : OneLine a)
    (hb : OneLine b) (hending : '\n' ∉ ending)
    (h : a.toList ++ (ending ++ '\n' :: x) = b.toList ++ (ending ++ '\n' :: y)) :
    a = b ∧ x = y := by
  unfold OneLine at ha hb
  rw [← List.append_assoc, ← List.append_assoc] at h
  obtain ⟨hline, hrest⟩ := cut_first (by simp [ha, hending]) (by simp [hb, hending]) h
  exact ⟨String.toList_injective (List.append_cancel_right hline), hrest⟩

/-- The name of a field that holds none of the marks around it. -/
structure PlainName (name : String) : Prop where
  oneLine : OneLine name
  space : ' ' ∉ name.toList
  colon : ':' ∉ name.toList

instance (name : String) : Decidable (PlainName name) :=
  decidable_of_iff (OneLine name ∧ ' ' ∉ name.toList ∧ ':' ∉ name.toList)
    ⟨fun ⟨hn, hs, hc⟩ => ⟨hn, hs, hc⟩, fun ⟨hn, hs, hc⟩ => ⟨hn, hs, hc⟩⟩

structure FieldLine.Plain (l : FieldLine) : Prop where
  name : PlainName l.name
  spelling : OneLine l.spelling

structure Struct.Plain (d : Struct) : Prop where
  name : OneLine d.name
  lines : ∀ l ∈ d.lines, l.Plain

/-! ## Readable syntax -/

namespace Profile

/-- A syntax whose boundaries can be found again. -/
structure Readable (p : Profile) : Prop where
  -- A line tells what it was written from, and where it ends.
  line : ∀ {l k : FieldLine} {x y : String}, l.Plain → k.Plain →
    p.field l.name l.spelling ++ x = p.field k.name k.spelling ++ y → l = k ∧ x = y
  -- No line begins as a closing does.
  line_ne_close : ∀ (l : FieldLine) (name x y : String),
    p.field l.name l.spelling ++ x ≠ p.closeStruct name ++ y
  -- An opening and a closing tell where they end.
  opening : ∀ {a b x y : String}, OneLine a → OneLine b →
    p.openStruct a ++ x = p.openStruct b ++ y → x = y
  closing : ∀ {a b x y : String}, OneLine a → OneLine b →
    p.closeStruct a ++ x = p.closeStruct b ++ y → x = y
  -- The opening and the closing of a struct together tell its name: Rust writes it into the
  -- one, C into the other.
  name : ∀ {a b x y u v : String}, OneLine a → OneLine b →
    p.openStruct a ++ x = p.openStruct b ++ y →
    p.closeStruct a ++ u = p.closeStruct b ++ v → a = b
  -- No struct begins as the end of the source does.
  open_ne_end : ∀ (name x : String) (v : MapVersion), p.openStruct name ++ x ≠ p.epilogue v

section

variable {p : Profile}

/-- Lines up to a closing are those they were written from. -/
theorem writeLines_close_inj (hp : p.Readable) {ls ks : List FieldLine} {a b x y : String}
    (hls : ∀ l ∈ ls, l.Plain) (hks : ∀ k ∈ ks, k.Plain)
    (h : p.writeLines ls ++ (p.closeStruct a ++ x) =
      p.writeLines ks ++ (p.closeStruct b ++ y)) :
    ls = ks ∧ p.closeStruct a ++ x = p.closeStruct b ++ y := by
  induction ls generalizing ks with
  | nil =>
      cases ks with
      | nil => simpa [writeLines] using h
      | cons k ks =>
          simp only [writeLines, String.empty_append, String.append_assoc] at h
          exact absurd h.symm (hp.line_ne_close k a _ _)
  | cons l ls ih =>
      cases ks with
      | nil =>
          simp only [writeLines, String.empty_append, String.append_assoc] at h
          exact absurd h (hp.line_ne_close l b _ _)
      | cons k ks =>
          rw [writeLines, writeLines, String.append_assoc, String.append_assoc] at h
          obtain ⟨rfl, hrest⟩ := hp.line (hls l List.mem_cons_self) (hks k List.mem_cons_self) h
          obtain ⟨rfl, hclose⟩ := ih (fun q hq => hls q (List.mem_cons_of_mem _ hq))
            (fun q hq => hks q (List.mem_cons_of_mem _ hq)) hrest
          exact ⟨rfl, hclose⟩

/-- A struct at the front of a text is the one it was written from, and tells where it
ends. -/
theorem writeStruct_append_inj (hp : p.Readable) {d e : Struct} {x y : String} (hd : d.Plain)
    (he : e.Plain) (h : p.writeStruct d ++ x = p.writeStruct e ++ y) : d = e ∧ x = y := by
  obtain ⟨dname, dlines⟩ := d
  obtain ⟨ename, elines⟩ := e
  simp only [writeStruct, String.append_assoc] at h
  obtain ⟨hlines, hclose⟩ :=
    writeLines_close_inj hp hd.lines he.lines (hp.opening hd.name he.name h)
  have hname := hp.name hd.name he.name h hclose
  have hrest := hp.closing hd.name he.name hclose
  simp only at hname hlines
  subst hname hlines
  exact ⟨rfl, hrest⟩

/-- Structs up to the end of the source are those they were written from. -/
theorem writeStructs_end_inj (hp : p.Readable) {ds es : List Struct} {v : MapVersion}
    (hds : ∀ d ∈ ds, d.Plain) (hes : ∀ e ∈ es, e.Plain)
    (h : p.writeStructs ds ++ p.epilogue v = p.writeStructs es ++ p.epilogue v) : ds = es := by
  induction ds generalizing es with
  | nil =>
      cases es with
      | nil => rfl
      | cons e es =>
          simp only [writeStructs, writeStruct, String.empty_append, String.append_assoc] at h
          exact absurd h.symm (hp.open_ne_end e.name _ v)
  | cons d ds ih =>
      cases es with
      | nil =>
          simp only [writeStructs, writeStruct, String.empty_append, String.append_assoc] at h
          exact absurd h (hp.open_ne_end d.name _ v)
      | cons e es =>
          rw [writeStructs, writeStructs, String.append_assoc, String.append_assoc] at h
          obtain ⟨rfl, hrest⟩ :=
            writeStruct_append_inj hp (hds d List.mem_cons_self) (hes e List.mem_cons_self) h
          rw [ih (fun q hq => hds q (List.mem_cons_of_mem _ hq))
            (fun q hq => hes q (List.mem_cons_of_mem _ hq)) hrest]

/-- **Writing loses nothing.** In a readable syntax, plain structs that are written alike
are alike. -/
theorem write_inj (hp : p.Readable) {ds es : List Struct} (hds : ∀ d ∈ ds, d.Plain)
    (hes : ∀ e ∈ es, e.Plain) (h : p.write ds = p.write es) : ds = es := by
  rw [write, write, String.append_assoc, String.append_assoc, String.append_right_inj] at h
  exact writeStructs_end_inj hp hds hes h

theorem render_eq_iff (hp : p.Readable) {s t : Schema} (hs : ∀ d ∈ p.structs s, d.Plain)
    (ht : ∀ d ∈ p.structs t, d.Plain) : p.render s = p.render t ↔ p.structs s = p.structs t := by
  rw [render_eq_write, render_eq_write]
  exact ⟨write_inj hp hs ht, fun h => by rw [h]⟩

end

end Profile

/-! ## The two languages -/

/-- The opening of a Rust struct tells its name and where it ends. -/
theorem rust_openStruct_inj {a b x y : String} (ha : OneLine a) (hb : OneLine b)
    (h : rustModule.openStruct a ++ x = rustModule.openStruct b ++ y) : a = b ∧ x = y := by
  have hline : a.toList ++ ([' ', '{'] ++ '\n' :: x.toList) =
      b.toList ++ ([' ', '{'] ++ '\n' :: y.toList) := by
    simpa [rustModule] using congrArg String.toList h
  obtain ⟨hname, hrest⟩ := line_inj ha hb (by decide) hline
  exact ⟨hname, String.toList_injective hrest⟩

/-- A line of a Rust struct tells its name, which ends at the first colon, its spelling and
where it ends. -/
theorem rust_field_inj {l k : FieldLine} {x y : String} (hl : l.Plain) (hk : k.Plain)
    (h : rustModule.field l.name l.spelling ++ x = rustModule.field k.name k.spelling ++ y) :
    l = k ∧ x = y := by
  have hline : (l.name ++ ": " ++ l.spelling).toList ++ ([','] ++ '\n' :: x.toList) =
      (k.name ++ ": " ++ k.spelling).toList ++ ([','] ++ '\n' :: y.toList) := by
    simpa [rustModule] using congrArg String.toList h
  have hone {q : FieldLine} (hq : q.Plain) : OneLine (q.name ++ ": " ++ q.spelling) :=
    oneLine_append (oneLine_append hq.name.oneLine (by decide)) hq.spelling
  obtain ⟨hbody, hrest⟩ := line_inj (hone hl) (hone hk) (by decide) hline
  have hcut : l.name.toList ++ ':' :: ' ' :: l.spelling.toList =
      k.name.toList ++ ':' :: ' ' :: k.spelling.toList := by
    simpa using congrArg String.toList hbody
  obtain ⟨hname, hspelling⟩ := cut_first hl.name.colon hk.name.colon hcut
  exact ⟨FieldLine.ext (String.toList_injective (List.cons.inj hspelling).2)
    (String.toList_injective hname), String.toList_injective hrest⟩

/-- The closing of a C struct tells its name and where it ends. -/
theorem c_closeStruct_inj {a b x y : String} (ha : OneLine a) (hb : OneLine b)
    (h : cHeader.closeStruct a ++ x = cHeader.closeStruct b ++ y) : a = b ∧ x = y := by
  have hline : a.toList ++ ([';'] ++ '\n' :: '\n' :: x.toList) =
      b.toList ++ ([';'] ++ '\n' :: '\n' :: y.toList) := by
    simpa [cHeader] using congrArg String.toList h
  obtain ⟨hname, hrest⟩ := line_inj ha hb (by decide) hline
  exact ⟨hname, String.toList_injective (List.cons.inj hrest).2⟩

/-- A line of a C struct tells its spelling, its name, which starts after the last space,
and where it ends. -/
theorem c_field_inj {l k : FieldLine} {x y : String} (hl : l.Plain) (hk : k.Plain)
    (h : cHeader.field l.name l.spelling ++ x = cHeader.field k.name k.spelling ++ y) :
    l = k ∧ x = y := by
  have hline : (l.spelling ++ " " ++ l.name).toList ++ ([';'] ++ '\n' :: x.toList) =
      (k.spelling ++ " " ++ k.name).toList ++ ([';'] ++ '\n' :: y.toList) := by
    simpa [cHeader] using congrArg String.toList h
  have hone {q : FieldLine} (hq : q.Plain) : OneLine (q.spelling ++ " " ++ q.name) :=
    oneLine_append (oneLine_append hq.spelling (by decide)) hq.name.oneLine
  obtain ⟨hbody, hrest⟩ := line_inj (hone hl) (hone hk) (by decide) hline
  have hcut : l.spelling.toList ++ ' ' :: l.name.toList =
      k.spelling.toList ++ ' ' :: k.name.toList := by
    simpa using congrArg String.toList hbody
  obtain ⟨hspelling, hname⟩ := cut_last hl.name.space hk.name.space hcut
  exact ⟨FieldLine.ext (String.toList_injective hspelling) (String.toList_injective hname),
    String.toList_injective hrest⟩

theorem ne_of_head?_ne {a b : String} (h : a.toList.head? ≠ b.toList.head?) : a ≠ b :=
  fun heq => h (by rw [heq])

theorem readable_rustModule : rustModule.Readable where
  line := rust_field_inj
  line_ne_close l name x y := ne_of_head?_ne (by simp [rustModule])
  opening ha hb h := (rust_openStruct_inj ha hb h).2
  closing _ _ h := by simpa [rustModule] using h
  name ha hb h _ := (rust_openStruct_inj ha hb h).1
  open_ne_end name x v := ne_of_head?_ne (by simp [rustModule])

theorem readable_cHeader : cHeader.Readable where
  line := c_field_inj
  line_ne_close l name x y := ne_of_head?_ne (by simp [cHeader])
  opening _ _ h := by simpa [cHeader] using h
  closing ha hb h := (c_closeStruct_inj ha hb h).2
  name ha hb _ h := (c_closeStruct_inj ha hb h).1
  open_ne_end name x v := ne_of_head?_ne (by simp [cHeader])

/-! ## Plain schemas -/

namespace Schema

def types (s : Schema) : List TypeToken :=
  s.records.flatMap fun r => r.fields.map (·.type)

/-- A schema whose names and types stay on their lines, whose field names hold no mark, and
whose types are read back from their spelling. -/
structure Plain (s : Schema) : Prop where
  record : ∀ r ∈ s.records, OneLine r.name
  field : ∀ r ∈ s.records, ∀ f ∈ r.fields, PlainName f.name
  type : ∀ t ∈ s.types, OneLine t.text ∧ TypeToken.parse t.text = t

instance (s : Schema) : Decidable s.Plain :=
  decidable_of_iff
    ((∀ r ∈ s.records, OneLine r.name) ∧
      (∀ r ∈ s.records, ∀ f ∈ r.fields, PlainName f.name) ∧
      ∀ t ∈ s.types, OneLine t.text ∧ TypeToken.parse t.text = t)
    ⟨fun ⟨hr, hf, ht⟩ => ⟨hr, hf, ht⟩, fun ⟨hr, hf, ht⟩ => ⟨hr, hf, ht⟩⟩

/-- No type is a name that C has for a primitive. -/
def AvoidsCNames (s : Schema) : Prop :=
  ∀ name, .named name ∈ s.types → ∀ p : Primitive, name ≠ p.cName

theorem mem_types {s : Schema} {r : Record} {f : Field} (hr : r ∈ s.records)
    (hf : f ∈ r.fields) : f.type ∈ s.types :=
  List.mem_flatMap.mpr ⟨r, hr, List.mem_map_of_mem hf⟩

/-- A language that spells types on one line turns plain schemas into plain structs. -/
theorem plain_structs {p : Profile} (hp : ∀ t : TypeToken, OneLine t.text → OneLine (p.typeName t))
    {s : Schema} (hs : s.Plain) : ∀ d ∈ p.structs s, d.Plain := by
  intro d hd
  obtain ⟨r, hr, rfl⟩ := List.mem_map.mp hd
  refine ⟨hs.record r hr, fun l hl => ?_⟩
  obtain ⟨f, hf, rfl⟩ := List.mem_map.mp hl
  exact ⟨hs.field r hr f hf, hp f.type (hs.type f.type (mem_types hr hf)).1⟩

end Schema

theorem eq_of_map_eq {α β : Type} {f : α → β} {xs ys : List α}
    (hinj : ∀ x ∈ xs, ∀ y ∈ ys, f x = f y → x = y) (h : xs.map f = ys.map f) : xs = ys := by
  induction xs generalizing ys with
  | nil => exact (List.map_eq_nil_iff.mp h.symm).symm
  | cons x xs ih =>
      cases ys with
      | nil => exact absurd h (by simp)
      | cons y ys =>
          obtain ⟨hxy, hrest⟩ := List.cons.inj h
          rw [hinj x List.mem_cons_self y List.mem_cons_self hxy,
            ih (fun a ha b hb => hinj a (List.mem_cons_of_mem _ ha) b (List.mem_cons_of_mem _ hb))
              hrest]

/-- Schemas of equal structs are equal if the language tells their types apart. -/
theorem eq_of_structs_eq {p : Profile} {s t : Schema}
    (hinj : ∀ a ∈ s.types, ∀ b ∈ t.types, p.typeName a = p.typeName b → a = b)
    (h : p.structs s = p.structs t) : s = t := by
  obtain ⟨srecords⟩ := s
  obtain ⟨trecords⟩ := t
  refine congrArg Schema.mk (eq_of_map_eq (fun r hr q hq hrq => ?_) h)
  obtain ⟨rname, rfields⟩ := r
  obtain ⟨qname, qfields⟩ := q
  obtain ⟨rfl, hlines⟩ := Struct.mk.inj hrq
  refine congrArg (Record.mk rname) (eq_of_map_eq (fun f hf g hg hfg => ?_) hlines)
  obtain ⟨htype, hname⟩ := FieldLine.mk.inj hfg
  have := hinj _ (Schema.mem_types hr hf) _ (Schema.mem_types hq hg) htype
  obtain ⟨fname, ftype⟩ := f
  obtain ⟨gname, gtype⟩ := g
  simp only at hname this
  rw [hname, this]

/-! ## What sources say about schemas -/

theorem oneLine_cName (p : Primitive) : OneLine p.cName := by
  cases p <;> decide

theorem Primitive.cName_injective {p q : Primitive} (h : p.cName = q.cName) : p = q := by
  cases p <;> cases q <;> first | rfl | exact absurd h (by decide)

theorem oneLine_cHeader_typeName (t : TypeToken) (h : OneLine t.text) :
    OneLine (cHeader.typeName t) := by
  cases t with
  | primitive p => exact oneLine_cName p
  | named name => exact h

theorem eq_of_text_eq {a b : TypeToken} (ha : TypeToken.parse a.text = a)
    (hb : TypeToken.parse b.text = b) (h : a.text = b.text) : a = b := by
  rw [← ha, ← hb, h]

/-- C tells types apart that are not called by its own names for primitives. -/
theorem eq_of_cHeader_typeName_eq {s t : Schema} (hs : s.AvoidsCNames) (ht : t.AvoidsCNames)
    {a b : TypeToken} (ha : a ∈ s.types) (hb : b ∈ t.types)
    (h : cHeader.typeName a = cHeader.typeName b) : a = b := by
  cases a with
  | primitive p =>
      cases b with
      | primitive q => exact congrArg _ (Primitive.cName_injective h)
      | named name => exact absurd h.symm (ht name hb p)
  | named name =>
      cases b with
      | primitive q => exact absurd h (hs name ha q)
      | named other => exact congrArg _ h

/-- **Generated sources lose nothing.** Plain schemas of equal Rust modules are equal, and so
are their C headers. Plain schemas of equal C headers have the same names of records and
fields and the same C spellings, all in the same order; they are equal as well if neither
uses a C name of a primitive as a type. -/
theorem sources_lose_nothing (s t : Schema) (hs : s.Plain) (ht : t.Plain) :
    (rustModule.render s = rustModule.render t → s = t) ∧
    (cHeader.render s = cHeader.render t →
      s.records.map (·.name) = t.records.map (·.name) ∧
      s.records.map (fun r => r.fields.map (·.name)) =
        t.records.map (fun r => r.fields.map (·.name)) ∧
      s.records.map (fun r => r.fields.map fun f => cHeader.typeName f.type) =
        t.records.map (fun r => r.fields.map fun f => cHeader.typeName f.type) ∧
      (s.AvoidsCNames → t.AvoidsCNames → s = t)) ∧
    (rustModule.render s = rustModule.render t → cHeader.render s = cHeader.render t) := by
  have hrust : rustModule.render s = rustModule.render t → s = t := by
    intro h
    have hstructs := (Profile.render_eq_iff readable_rustModule
      (Schema.plain_structs (fun _ h => h) hs) (Schema.plain_structs (fun _ h => h) ht)).mp h
    exact eq_of_structs_eq
      (fun a ha b hb => eq_of_text_eq (hs.type a ha).2 (ht.type b hb).2) hstructs
  refine ⟨hrust, fun h => ?_, fun h => by rw [hrust h]⟩
  have hstructs := (Profile.render_eq_iff readable_cHeader
    (Schema.plain_structs oneLine_cHeader_typeName hs)
    (Schema.plain_structs oneLine_cHeader_typeName ht)).mp h
  refine ⟨?_, ?_, ?_, fun hsc htc => eq_of_structs_eq
    (fun a ha b hb => eq_of_cHeader_typeName_eq hsc htc ha hb) hstructs⟩
  · simpa [Profile.structs, Profile.structOf, Function.comp_def] using
      congrArg (List.map (·.name)) hstructs
  · simpa [Profile.structs, Profile.structOf, Profile.lineOf, Function.comp_def] using
      congrArg (List.map fun d => d.lines.map (·.name)) hstructs
  · simpa [Profile.structs, Profile.structOf, Profile.lineOf, Function.comp_def] using
      congrArg (List.map fun d => d.lines.map (·.spelling)) hstructs

/-- Two records, one of them empty, whose names and types are full of marks. -/
def markedSchema (first : TypeToken) : Schema :=
  ⟨[⟨"\x7d a;", [⟨"", first⟩, ⟨"x", .named "y: z"⟩]⟩, ⟨"", []⟩]⟩

/-- Marks inside names of records and types do no harm. A C name of a primitive, used as a
type, makes equal headers of different schemas, which their Rust modules still tell apart. -/
theorem sources_lose_nothing_marked :
    (markedSchema (.primitive .u8)).Plain ∧ (markedSchema (.named "uint8_t")).Plain ∧
    cHeader.render (markedSchema (.primitive .u8)) =
      cHeader.render (markedSchema (.named "uint8_t")) ∧
    (markedSchema (.primitive .u8)).records.map (·.name) =
      (markedSchema (.named "uint8_t")).records.map (·.name) ∧
    rustModule.render (markedSchema (.primitive .u8)) ≠
      rustModule.render (markedSchema (.named "uint8_t")) := by
  have hs : (markedSchema (.primitive .u8)).Plain := by decide
  have ht : (markedSchema (.named "uint8_t")).Plain := by decide
  have hc : cHeader.render (markedSchema (.primitive .u8)) =
      cHeader.render (markedSchema (.named "uint8_t")) := rfl
  obtain ⟨hrust, hheader, -⟩ := sources_lose_nothing _ _ hs ht
  exact ⟨hs, ht, hc, (hheader hc).1, fun h => absurd (hrust h) (by decide)⟩

end MemMap
