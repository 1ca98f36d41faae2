import MemMap.Proofs.ExactSize
import MemMap.Proofs.Loading
import MemMap.Proofs.Notes

/-!
# MemMap.Proofs.RunLog

What the log of a run says.

A run tells of each of its steps: of the file it is about to read, of the notes on its document
(`MemMap.Proofs.Notes`), and then, if the schema has loaded, of the check, of the two sources
and of the two files. The check tells of each record the fields it could not size and then the
size it has computed, and at its end the warnings. Which fields these are is said here by their
place in the schema (`Schema.Unresolved`): a name that no earlier record bears, or any name
where names are skipped; a field that resolves to an empty record is none of them.

What a run has found out can be read back from its log (`Tells`), by the level and the fields
of its events alone: the sizes computed, the warnings, and which of the files were written.

* `measured_checkAlignment`, `events_checkAlignment` — what a check tells, record by record;
* `events_load` — what loading tells;
* `tells_report`, `tells_writes` — what is read back from a check and from some writes;
* `log_of_run` — the log of all runs.
-/

namespace MemMap

open Files

/-! ## Reading a log -/

namespace LogEvent

/-- The record and its size, if the event tells of a record that was measured. -/
def size? (e : LogEvent) : Option (String × Nat) :=
  match e.level, e.fields with
  | .debug, [("record", .text record), ("size", .number n)] => some (record, n)
  | _, _ => none

/-- The warning that the event tells of, if any. -/
def warning? (e : LogEvent) : Option Warning :=
  match e.level, e.fields with
  | .warn, [("record", .text record), ("size", .number n)] => some ⟨record, n⟩
  | _, _ => none

/-- Whether a file was written, if the event tells of one. -/
def success? (e : LogEvent) : Option Bool :=
  match e.level, e.fields with
  | .info, [("path", .text _), ("bytes", .number _)] => some true
  | .warn, [] => some false
  | _, _ => none

end LogEvent

/-- What can be read back from some events: sizes, warnings, and which files were written. -/
structure Tells (events : List LogEvent) (sizes : Sizes) (warnings : List Warning)
    (written : List Bool) : Prop where
  sizes : events.filterMap LogEvent.size? = sizes
  warnings : events.filterMap LogEvent.warning? = warnings
  written : events.filterMap LogEvent.success? = written

namespace Tells

variable {a b : List LogEvent} {sizes sizes' : Sizes} {warnings warnings' : List Warning}
  {written written' : List Bool}

/-- **Logs in two parts.** -/
theorem append (ha : Tells a sizes warnings written) (hb : Tells b sizes' warnings' written') :
    Tells (a ++ b) (sizes ++ sizes') (warnings ++ warnings') (written ++ written') := by
  constructor
  · rw [List.filterMap_append, ha.sizes, hb.sizes]
  · rw [List.filterMap_append, ha.warnings, hb.warnings]
  · rw [List.filterMap_append, ha.written, hb.written]

/-- Parts that tell nothing tell nothing together. -/
theorem flatMap_nothing {α : Type} {f : α → List LogEvent} (h : ∀ x, Tells (f x) [] [] [])
    (xs : List α) : Tells (xs.flatMap f) [] [] [] := by
  induction xs with
  | nil => exact ⟨rfl, rfl, rfl⟩
  | cons x rest ih => exact (h x).append ih

end Tells

/-! ## Checks -/

namespace Schema

variable {policy : NestedSizing} {s : Schema} {i : Nat}

/-- Whether a field of that type, in the record at an index, has no size that is known: the
type is a name, and names are skipped or no earlier record bears it. -/
def Unresolved (policy : NestedSizing) (s : Schema) (i : Nat) (t : TypeToken) : Prop :=
  ∃ name, t = .named name ∧ (policy = .skip ∨ ∀ r ∈ s.records.take i, r.name ≠ name)

instance (policy : NestedSizing) (s : Schema) (i : Nat) (t : TypeToken) :
    Decidable (s.Unresolved policy i t) :=
  match t with
  | .primitive _ => .isFalse fun ⟨_, heq, _⟩ => by cases heq
  | .named name =>
    if h : policy = .skip ∨ ∀ r ∈ s.records.take i, r.name ≠ name then .isTrue ⟨name, rfl, h⟩
    else .isFalse fun ⟨_, heq, hname⟩ => by
      cases heq
      exact h hname

theorem map_fst_exactBefore (policy : NestedSizing) (s : Schema) (i : Nat) :
    (s.exactBefore policy i).map Prod.fst = ((s.records.take i).map (·.name)).reverse := by
  have hnames : (s.records.take i).zipIdx.map (fun e => e.1.name) =
      (s.records.take i).map (·.name) := by
    conv_rhs => rw [← List.zipIdx_map_fst 0 (s.records.take i), List.map_map]
    rfl
  rw [exactBefore, List.map_reverse, List.map_map, ← hnames]
  rfl

/-- A size is not known among those of the earlier records exactly if the field is
unresolved. -/
theorem fieldSize?_eq_none_iff {t : TypeToken} :
    fieldSize? policy (s.exactBefore policy i).capped t = none ↔ s.Unresolved policy i t := by
  rw [fieldSize?_capped, Option.map_eq_none_iff]
  cases t with
  | primitive p => simp [fieldSize?, Unresolved]
  | named name =>
      cases policy with
      | skip => simp [fieldSize?, Unresolved]
      | resolve =>
          show (s.exactBefore .resolve i).get? name = none ↔ _
          rw [Sizes.get?_eq_none_iff, map_fst_exactBefore, List.mem_reverse, List.mem_map]
          simp [Unresolved]

/-- What the check makes of the record at an index. -/
def measuredAt (policy : NestedSizing) (s : Schema) (e : Record × Nat) : Measured where
  name := e.1.name
  size := min (s.exactSize policy e.2) sizeCap
  unresolved := e.1.fields.filter fun f => s.Unresolved policy e.2 f.type

theorem measure_exactBefore {r : Record} (hr : s.records[i]? = some r) :
    measure policy (s.exactBefore policy i).capped r = s.measuredAt policy (r, i) := by
  have hfields : r.fields.filter
        (fun f => (fieldSize? policy (s.exactBefore policy i).capped f.type).isNone) =
      r.fields.filter fun f => s.Unresolved policy i f.type :=
    List.filter_congr fun f _ => by
      rw [Bool.eq_iff_iff, Option.isNone_iff_eq_none, fieldSize?_eq_none_iff, decide_eq_true_iff]
  rw [measure, packedSize_capped, ← exactSize_eq_packedTotal policy s hr, hfields]
  rfl

/-- From any record on, the check measures by the exact sizes of the records before. The walk
has passed `i` records; the induction is on those to come. -/
theorem measureFrom_exactBefore (policy : NestedSizing) (s : Schema) (i : Nat)
    (rest : List Record) (h : s.records.drop i = rest) :
    measureFrom policy (s.exactBefore policy i).capped rest =
      (rest.zipIdx i).map (s.measuredAt policy) := by
  induction rest generalizing i with
  | nil => rfl
  | cons r rest ih =>
      obtain ⟨hr, hrest⟩ := getElem?_and_drop_of_drop h
      rw [measureFrom, measure_exactBefore hr, List.zipIdx_cons, List.map_cons,
        ← ih (i + 1) hrest, exactBefore_succ policy s hr]
      rfl

/-- The events of the record at an index: its unresolved fields, then its size. -/
def recordEvents (policy : NestedSizing) (s : Schema) (e : Record × Nat) : List LogEvent :=
  (e.1.fields.filter fun f => s.Unresolved policy e.2 f.type).map
      (fun f => .unresolvedField e.1.name f.name f.type.text) ++
    [.recordSize e.1.name (min (s.exactSize policy e.2) sizeCap)]

end Schema

/-- **Record by record.** A check finds of each record its exact size, capped, and the fields
that are unresolved. -/
theorem measured_checkAlignment (policy : NestedSizing) (s : Schema) :
    (checkAlignment policy s).measured = s.records.zipIdx.map (s.measuredAt policy) :=
  s.measureFrom_exactBefore policy 0 s.records rfl

/-- The events of some warnings. -/
def warningEvents (warnings : List Warning) : List LogEvent :=
  warnings.map fun w => .misaligned w.record w.size

/-- **What a check tells.** -/
theorem events_checkAlignment (policy : NestedSizing) (s : Schema) :
    (checkAlignment policy s).events = s.records.zipIdx.flatMap (s.recordEvents policy) ++
      warningEvents (checkAlignment policy s).warnings := by
  rw [Report.events, measured_checkAlignment, List.flatMap_map]
  rfl

/-- A record tells its size, after its fields, which tell nothing that is read back. -/
theorem tells_measured (m : Measured) : Tells m.events [(m.name, m.size)] [] [] := by
  have hfields : Tells (m.unresolved.map fun f =>
      .unresolvedField m.name f.name f.type.text) [] [] [] := by
    rw [List.map_eq_flatMap]
    exact Tells.flatMap_nothing (fun _ => ⟨rfl, rfl, rfl⟩) m.unresolved
  exact hfields.append ⟨rfl, rfl, rfl⟩

theorem tells_measuredAll (ms : List Measured) :
    Tells (ms.flatMap Measured.events) (ms.map fun m => (m.name, m.size)) [] [] := by
  induction ms with
  | nil => exact ⟨rfl, rfl, rfl⟩
  | cons m rest ih => exact (tells_measured m).append ih

theorem tells_warningEvents (warnings : List Warning) :
    Tells (warningEvents warnings) [] warnings [] := by
  induction warnings with
  | nil => exact ⟨rfl, rfl, rfl⟩
  | cons w rest ih => exact Tells.append (a := [.misaligned w.record w.size]) ⟨rfl, rfl, rfl⟩ ih

/-- **Sizes and warnings are read back** from what a check tells. -/
theorem tells_report (report : Report) :
    Tells report.events report.sizes report.warnings [] := by
  have h := (tells_measuredAll report.measured).append (tells_warningEvents report.warnings)
  rwa [List.append_nil] at h

/-! ## Loading -/

variable {t : Tree} {config : Config} {path : String} {schema : Schema}

/-- The notes on the document that a text is, if it is YAML. -/
def textNotes (text : String) : List LogEvent :=
  match Yaml.Value.ofText text with
  | .ok document => documentNotes document
  | .error _ => []

/-- The notes on the document in the file at a path, if there is a text to be read. -/
def fileNotes (t : Tree) (path : String) : List LogEvent :=
  match t.readText path with
  | .ok text => textNotes text
  | .error _ => []

theorem notes_walkText (text : String) : (Schema.walkText text).1 = textNotes text := by
  rw [Schema.walkText, textNotes]
  cases Yaml.Value.ofText text with
  | ok document => exact notes_walk document
  | error f => rfl

/-- **What loading tells.** The path, the notes on its document, and at the end the number of
records, if a schema was loaded. -/
theorem events_load (t : Tree) (path : String) :
    (load Tree.access path t).1.events =
      .loading path :: fileNotes t path ++ loadedEvents (load Tree.access path t).1.value := by
  rw [fileNotes]
  cases htext : t.readText path with
  | error f =>
      rw [load_of_error htext]
      rfl
  | ok text =>
      rw [load_of_readText htext, notes_walkText]
      rfl

theorem tells_documentNotes (v : Yaml.Value) : Tells (documentNotes v) [] [] [] := by
  have hfield : ∀ record e, Tells (fieldNotes record e) [] [] [] := by
    intro record e
    unfold fieldNotes
    repeat' split
    all_goals exact ⟨rfl, rfl, rfl⟩
  have hrecord : ∀ e, Tells (recordNotes e) [] [] [] := by
    intro e
    unfold recordNotes
    split
    next =>
      split
      next record _ => exact Tells.flatMap_nothing (hfield record) _
      next => exact ⟨rfl, rfl, rfl⟩
    next => exact ⟨rfl, rfl, rfl⟩
  unfold documentNotes
  split
  next => exact Tells.flatMap_nothing hrecord _
  next => exact ⟨rfl, rfl, rfl⟩

/-- Notes tell nothing that is read back. -/
theorem tells_fileNotes (t : Tree) (path : String) : Tells (fileNotes t path) [] [] [] := by
  unfold fileNotes textNotes
  split
  next =>
    split
    next document _ => exact tells_documentNotes document
    next => exact ⟨rfl, rfl, rfl⟩
  next => exact ⟨rfl, rfl, rfl⟩

/-! ## Writing -/

/-- An outcome tells whether it is a success. -/
theorem tells_writes (writes : List WriteOutcome) :
    Tells (writes.map WriteOutcome.event) [] [] (writes.map WriteOutcome.isOk) := by
  induction writes with
  | nil => exact ⟨rfl, rfl, rfl⟩
  | cons o rest ih =>
      have hone : Tells [o.event] [] [] [o.isOk] := by
        obtain ⟨target, path, bytes, failure⟩ := o
        cases failure <;> exact ⟨rfl, rfl, rfl⟩
      exact hone.append ih

/-- An outcome has the size of the file that was to be written. -/
theorem bytes_of_mem_writeOutputs {files : List GeneratedFile} {o : WriteOutcome}
    (h : o ∈ (writeOutputs Tree.access config files t).1) :
    ∃ f ∈ files, o.target = f.target ∧ o.bytes = f.source.utf8ByteSize := by
  induction files generalizing t with
  | nil => cases h
  | cons f rest ih =>
      rw [writeOutputs_cons] at h
      rcases List.mem_cons.mp h with rfl | hrest
      · refine ⟨f, List.mem_cons_self, ?_⟩
        rcases writeOutput_cases config f t with ⟨p, -, hw⟩ | ⟨e, -, hw⟩ <;> rw [hw] <;>
          exact ⟨rfl, rfl⟩
      · obtain ⟨g, hg, hbytes⟩ := ih hrest
        exact ⟨g, List.mem_cons_of_mem f hg, hbytes⟩

/-! ## Runs -/

/-- What the log of a run of a schema that loads has to do with the schema and the report of
the run. -/
structure Told (config : Config) (t : Tree) (path : String) (schema : Schema)
    (report : RunReport) (events : List LogEvent) : Prop where
  /-- All that is told, in order. -/
  log : events =
    .loading path :: fileNotes t path ++ [.loaded schema.size, .checking] ++
      (schema.records.zipIdx.flatMap (schema.recordEvents config.nestedSizing) ++
        warningEvents report.alignment.warnings) ++
      [.rendering "Rust", .rendering "C", .writing config.outputDir] ++
      report.writes.map WriteOutcome.event
  /-- All that is found out can be read back. -/
  tells : Tells events report.alignment.sizes report.alignment.warnings
    (report.writes.map WriteOutcome.isOk)
  /-- A success is told of with the path and the size of the text. -/
  written : ∀ o ∈ report.writes, o.isOk = true →
    o.event.level = .info ∧ (∀ yamlText, o.event.messageWith yamlText = "Wrote output") ∧
      o.event.fields = [("path", .text o.path),
        ("bytes", .number (o.target.profile.render schema).utf8ByteSize)]
  /-- A failure is told of by its error. -/
  failed : ∀ o ∈ report.writes, o.isOk = false → ∃ cause,
    o.error? = some (.write o.path cause) ∧ o.event.level = .warn ∧
      (∀ yamlText, o.event.messageWith yamlText =
        (Error.write o.path cause).messageWith yamlText) ∧ o.event.fields = []

theorem told_of_load (config : Config) (h : (load Tree.access path t).1.value = .ok schema) :
    Told config t path schema
      ⟨checkAlignment config.nestedSizing schema,
        (writeOutputs Tree.access config (generate schema) t).1⟩
      (runOn t config path).1.events := by
  have hevents : (runOn t config path).1.events =
      .loading path :: fileNotes t path ++ [.loaded schema.size, .checking] ++
        (checkAlignment config.nestedSizing schema).events ++
        [.rendering "Rust", .rendering "C", .writing config.outputDir] ++
        (writeOutputs Tree.access config (generate schema) t).1.map WriteOutcome.event := by
    have hgeneration : generationEvents = [.rendering "Rust", .rendering "C"] := rfl
    have hrun : (runOn t config path).1.events = (load Tree.access path t).1.events ++
        .checking :: (checkAlignment config.nestedSizing schema).events ++ generationEvents ++
        .writing config.outputDir ::
          (writeOutputs Tree.access config (generate schema) t).1.map WriteOutcome.event := by
      rw [runOn_of_ok config h]
      rfl
    rw [hrun, events_load, h, hgeneration]
    simp [loadedEvents]
  constructor
  case log => rw [hevents, events_checkAlignment]
  case tells =>
    rw [hevents]
    have hload : Tells (.loading path :: fileNotes t path ++ [.loaded schema.size, .checking])
        [] [] [] :=
      Tells.append (a := [.loading path]) ⟨rfl, rfl, rfl⟩
        ((tells_fileNotes t path).append ⟨rfl, rfl, rfl⟩)
    have hcheck := hload.append (tells_report (checkAlignment config.nestedSizing schema))
    have hsteps : Tells [.rendering "Rust", .rendering "C", .writing config.outputDir]
        [] [] [] := ⟨rfl, rfl, rfl⟩
    have hall := (hcheck.append hsteps).append
      (tells_writes (writeOutputs Tree.access config (generate schema) t).1)
    simpa only [List.nil_append, List.append_nil] using hall
  case written =>
    intro o ho hok
    obtain ⟨f, hf, htarget, hbytes⟩ := bytes_of_mem_writeOutputs ho
    obtain ⟨target, -, rfl⟩ := List.mem_map.mp hf
    have hevent : o.event = .written o.path o.bytes := by
      obtain ⟨target, path, bytes, _ | cause⟩ := o
      · rfl
      · cases hok
    rw [hevent, hbytes, htarget]
    exact ⟨rfl, fun _ => rfl, rfl⟩
  case failed =>
    intro o ho hok
    obtain ⟨target, path, bytes, _ | cause⟩ := o
    · cases hok
    · exact ⟨cause, rfl, rfl, fun _ => rfl, rfl⟩

/-- **The log of all runs.** A run whose schema does not load tells of the path and the notes
on its document, and of nothing else. Any other run tells of all its steps in order: of the
check record by record and then by its warnings, and of each file by what came of writing it;
what was found out can be read back from what is told. -/
theorem log_of_run (t : Tree) (config : Config) (path : String) :
    (∀ e, (load Tree.access path t).1.value = .error e →
      (runOn t config path).1.value = .error e ∧
        (runOn t config path).1.events = .loading path :: fileNotes t path ∧
        Tells (runOn t config path).1.events [] [] []) ∧
    ∀ schema, (load Tree.access path t).1.value = .ok schema →
      ∃ report, (runOn t config path).1.value = .ok report ∧
        Accomplished config schema t report (runOn t config path).2 ∧
        Told config t path schema report (runOn t config path).1.events := by
  constructor
  · intro e he
    have hevents : (runOn t config path).1.events = .loading path :: fileNotes t path := by
      rw [runOn_of_error config he, events_load, he]
      simp [loadedEvents]
    refine ⟨by rw [runOn_of_error config he], hevents, ?_⟩
    rw [hevents]
    exact Tells.append (a := [.loading path]) ⟨rfl, rfl, rfl⟩ (tells_fileNotes t path)
  · intro schema hschema
    refine ⟨_, value_runOn_of_ok config hschema, ?_, told_of_load config hschema⟩
    rw [tree_runOn_of_ok config hschema]
    exact accomplished_writeOutputs config schema t

/-- A directory stands where the Rust module would go; one field names no record, another one
an empty record, and a third has a key besides its type. -/
def tellingTree : Tree where
  entries := [(["work"], .directory), (["work", "structure.rs"], .directory),
    (["work", "s.yaml"], .file "E: {}\nA: {a: {type: u8, at: 1}, b: B, e: E}\n".toUTF8)]
  here := ["work"]

def tellingSchema : Schema :=
  ⟨[⟨"E", []⟩, ⟨"A", [⟨"a", .primitive .u8⟩, ⟨"b", .named "B"⟩, ⟨"e", .named "E"⟩]⟩]⟩

theorem log_of_run_telling :
    (runOn tellingTree .standard "missing.yaml").1.events = [.loading "missing.yaml"] ∧
      (fileNotes tellingTree "s.yaml").map LogEvent.fields =
        [[("record", .text "A"), ("field", .text "a"), ("ignored", .text "[\"at\"]")]] ∧
      ∃ writes : List WriteOutcome, (runOn tellingTree .standard "s.yaml").1.events =
          .loading "s.yaml" :: fileNotes tellingTree "s.yaml" ++
            [.loaded 2, .checking, .recordSize "E" 0, .unresolvedField "A" "b" "B",
              .recordSize "A" 1, .misaligned "A" 1, .rendering "Rust", .rendering "C",
              .writing "."] ++ writes.map WriteOutcome.event ∧
        (runOn tellingTree .standard "s.yaml").1.events.filterMap LogEvent.success? =
          [false, true] := by
  have hmissing : (load Tree.access "missing.yaml" tellingTree).1.value =
      .error (.schemaNotFound "missing.yaml") := rfl
  have hload : (load Tree.access "s.yaml" tellingTree).1.value = .ok tellingSchema :=
    toOption_eq_some_iff.mp (by decide +kernel)
  obtain ⟨hfailed, -⟩ := log_of_run tellingTree .standard "missing.yaml"
  obtain ⟨-, hmissingEvents, -⟩ := hfailed _ hmissing
  obtain ⟨-, hloaded⟩ := log_of_run tellingTree .standard "s.yaml"
  obtain ⟨report, -, hacc, htold⟩ := hloaded tellingSchema hload
  have hflags : report.writes.map WriteOutcome.isOk = [false, true] := by
    have hrust : outputPlace? Config.standard tellingTree .rust = none := by decide +kernel
    have hc : (outputPlace? Config.standard tellingTree .c).isSome = true := by decide +kernel
    have h := congrArg (List.map fun o => o.2.2) hacc.outcomes
    rw [List.map_map, hrust, hc] at h
    exact h
  have hcheck : (checkAlignment Config.standard.nestedSizing tellingSchema).events =
      [.recordSize "E" 0, .unresolvedField "A" "b" "B", .recordSize "A" 1, .misaligned "A" 1] :=
    rfl
  rw [events_checkAlignment] at hcheck
  refine ⟨hmissingEvents, by decide +kernel, report.writes, ?_, htold.tells.written.trans hflags⟩
  rw [htold.log, hacc.alignment, hcheck]
  simp only [List.append_assoc, List.cons_append, List.nil_append]
  rfl

end MemMap
