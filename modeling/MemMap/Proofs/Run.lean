import MemMap.Proofs.Writing

/-!
# MemMap.Proofs.Run

What a run does to a tree.

A run has one step that can fail, the loading of its schema, and until then it only reads.
After it come the check, which touches no file, and the writes, each of which goes its own
way (`MemMap.Proofs.Writing`). So a run either reports the error of loading and leaves the
tree alone, or reports the check and one outcome for each target. The policy of the check is
not looked at anywhere else.

* `ofLoading_of_load` — the errors that loading has;
* `runOn_of_error`, `runOn_of_ok` — the two ways in which a run ends;
* `runOn_policy` — what the policy of the check has no part in;
* `run_all_or_nothing` — reports and trees of all runs.
-/

namespace MemMap

open Files

variable {config : Config} {t : Tree} {path : String} {e : Error} {schema : Schema}

/-! ## Loading -/

/-- The errors of loading the schema file at `path`: nothing is there, it cannot be read, it
is no YAML text, or it holds no schema. -/
inductive Error.OfLoading (path : String) : Error → Prop
  | notFound : OfLoading path (.schemaNotFound path)
  | read {cause : Fault} (h : cause ≠ .notFound) : OfLoading path (.schemaRead path cause)
  | parse (cause : Yaml.Fault) : OfLoading path (.schemaParse path cause)
  | invalid (cause : SchemaFault) : OfLoading path (.invalidSchema cause)

theorem mapError_eq_error_iff {ε ε' α : Type} {r : Except ε α} {f : ε → ε'} {e : ε'} :
    r.mapError f = .error e ↔ ∃ cause, r = .error cause ∧ f cause = e := by
  cases r with
  | ok a =>
      show Except.ok a = .error e ↔ _
      simp
  | error cause =>
      show Except.error (f cause) = .error e ↔ _
      simp

/-- A text that gives no schema is no YAML, or a document that is none. -/
theorem walkText_eq_error {text : String} (h : (Schema.walkText text).2 = .error e) :
    (∃ cause, e = .yaml cause) ∨ ∃ cause, e = .invalidSchema cause := by
  unfold Schema.walkText at h
  split at h
  next document _ =>
    obtain ⟨cause, -, rfl⟩ := mapError_eq_error_iff.mp h
    exact .inr ⟨cause, rfl⟩
  next cause _ => exact .inl ⟨cause, (Except.error.inj h).symm⟩

theorem ofLoading_of_schemaOfContent {content : ByteArray}
    (h : (schemaOfContent path content).value = .error e) : e.OfLoading path := by
  unfold schemaOfContent at h
  split at h
  next =>
    obtain rfl := Except.error.inj h
    exact .read (by decide)
  next text _ =>
    obtain ⟨e', hwalk, rfl⟩ := mapError_eq_error_iff.mp h
    rcases walkText_eq_error hwalk with ⟨cause, rfl⟩ | ⟨cause, rfl⟩
    · exact .parse cause
    · exact .invalid cause

theorem load_tree : load Tree.access path t = (schemaOfRead path (t.read path), t) := rfl

theorem ofLoading_of_load (h : (load Tree.access path t).1.value = .error e) :
    e.OfLoading path := by
  rw [load_tree] at h
  cases hread : t.read path with
  | ok content =>
      simp only [hread, schemaOfRead] at h
      exact ofLoading_of_schemaOfContent h
  | error cause =>
      simp only [hread, schemaOfRead, Except.error.injEq] at h
      unfold readError at h
      split at h
      next => exact h ▸ .notFound
      next hcause => exact h ▸ .read hcause

/-! ## The two ways of a run -/

/-- **A schema that does not load.** The run ends with the same error, and the tree is left
alone. -/
theorem runOn_of_error (config : Config) (h : (load Tree.access path t).1.value = .error e) :
    runOn t config path = (⟨(load Tree.access path t).1.events, .error e⟩, t) := by
  simp only [load_tree] at h
  simp only [runOn, run, bind, StateT.bind, load_tree, h]
  rfl

/-- **A schema that loads.** It is checked, and its sources are written. -/
theorem runOn_of_ok (config : Config) (h : (load Tree.access path t).1.value = .ok schema) :
    runOn t config path =
      let alignment := checkAlignment config.nestedSizing schema
      let (writes, after) := writeOutputs Tree.access config (generate schema) t
      (⟨(load Tree.access path t).1.events ++ .checking :: alignment.events ++ generationEvents
          ++ .writing config.outputDir :: writes.map WriteOutcome.event,
        .ok ⟨alignment, writes⟩⟩, after) := by
  simp only [load_tree] at h
  simp only [runOn, run, bind, StateT.bind, load_tree, h]
  rfl

theorem value_runOn_of_ok (config : Config)
    (h : (load Tree.access path t).1.value = .ok schema) :
    (runOn t config path).1.value = .ok ⟨checkAlignment config.nestedSizing schema,
      (writeOutputs Tree.access config (generate schema) t).1⟩ := by
  rw [runOn_of_ok config h]
  rfl

theorem tree_runOn_of_ok (config : Config) (h : (load Tree.access path t).1.value = .ok schema) :
    (runOn t config path).2 = (writeOutputs Tree.access config (generate schema) t).2 := by
  rw [runOn_of_ok config h]
  rfl

/-- A run fails with the errors of loading, and with no others. -/
theorem runOn_eq_error_iff :
    (runOn t config path).1.value = .error e ↔
      (load Tree.access path t).1.value = .error e := by
  refine ⟨fun h => ?_, fun h => by rw [runOn_of_error config h]⟩
  cases hload : (load Tree.access path t).1.value with
  | error e' =>
      rw [runOn_of_error config hload] at h
      obtain rfl : e' = e := Except.error.inj h
      rfl
  | ok schema =>
      rw [runOn_of_ok config hload] at h
      cases h

/-! ## The policy of the check -/

theorem outputPath_policy (policy : NestedSizing) :
    outputPath { config with nestedSizing := policy } = outputPath config := by
  funext target
  cases target <;> rfl

/-- Writing looks at a configuration for the paths alone. -/
theorem writeOutputs_congr {other : Config} (h : outputPath other = outputPath config)
    (files : List GeneratedFile) :
    writeOutputs Tree.access other files = writeOutputs Tree.access config files := by
  induction files with
  | nil => rfl
  | cons f rest ih => simp only [writeOutputs, writeOutput, h, ih]

/-- **The policy tells the check alone.** Under another one a run leaves the same tree and the
same outcomes. -/
theorem runOn_policy (policy : NestedSizing) :
    (runOn t { config with nestedSizing := policy } path).2 = (runOn t config path).2 ∧
      (runOn t { config with nestedSizing := policy } path).1.value.map RunReport.writes =
        (runOn t config path).1.value.map RunReport.writes := by
  cases hload : (load Tree.access path t).1.value with
  | error e =>
      rw [runOn_of_error config hload, runOn_of_error { config with nestedSizing := policy } hload]
      exact ⟨rfl, rfl⟩
  | ok schema =>
      rw [runOn_of_ok config hload, runOn_of_ok { config with nestedSizing := policy } hload,
        writeOutputs_congr (outputPath_policy policy)]
      exact ⟨rfl, rfl⟩

/-! ## Runs -/

/-- What a run of a schema that loads has done to the tree before it. -/
structure Accomplished (config : Config) (schema : Schema) (t : Tree) (report : RunReport)
    (after : Tree) : Prop where
  alignment : report.alignment = checkAlignment config.nestedSizing schema
  /-- There is one outcome for each target, and it is a success exactly if there was a place for
  the file. -/
  outcomes : report.writes.map (fun o => (o.target, o.path, o.isOk)) =
    [(.rust, outputPath config .rust, (outputPlace? config t .rust).isSome),
      (.c, outputPath config .c, (outputPlace? config t .c).isSome)]
  /-- What was written holds the text of the schema, unless something was written to the same
  place later. -/
  written : ∀ before o later, report.writes = before ++ o :: later → o.isOk = true →
    (∀ o' ∈ later, o'.isOk = true → t.writePlace o'.path ≠ t.writePlace o.path) →
      after.read o.path = .ok (o.target.profile.render schema).toUTF8
  /-- Nothing changes but at the places of the two files. -/
  elsewhere : ∀ p, (∀ target, outputPlace? config t target ≠ some p) → after.get? p = t.get? p

theorem accomplished_writeOutputs (config : Config) (schema : Schema) (t : Tree) :
    Accomplished config schema t
      ⟨checkAlignment config.nestedSizing schema,
        (writeOutputs Tree.access config (generate schema) t).1⟩
      (writeOutputs Tree.access config (generate schema) t).2 := by
  constructor
  case alignment => rfl
  case outcomes => exact outcomes_writeOutputs config (generate schema) t
  case written =>
    intro before o later hsplit ho hlater
    obtain ⟨f, hf, htarget, hread⟩ := read_of_isOk hsplit ho hlater
    obtain ⟨target, -, rfl⟩ := List.mem_map.mp hf
    rw [hread, ← htarget, generateFor]
  case elsewhere =>
    intro p hp
    rw [get?_writeOutputs, lastFileAt?_eq_none fun f _ => hp f.target]
    rfl

/-- **A run is all or nothing.** It fails exactly if its schema does not load, and then changes
nothing. Once the schema is loaded it ends with a report, whatever comes of its writes. The
policy of the check shows in the report of the check alone. -/
theorem run_all_or_nothing (t : Tree) (config : Config) (path : String) :
    (∀ e, (runOn t config path).1.value = .error e ↔
      (load Tree.access path t).1.value = .error e) ∧
    (∀ e, (runOn t config path).1.value = .error e →
      e.OfLoading path ∧ (runOn t config path).2 = t) ∧
    (∀ schema, (load Tree.access path t).1.value = .ok schema →
      ∃ report, (runOn t config path).1.value = .ok report ∧
        Accomplished config schema t report (runOn t config path).2) ∧
    (∀ policy, (runOn t { config with nestedSizing := policy } path).2 =
        (runOn t config path).2 ∧
      (runOn t { config with nestedSizing := policy } path).1.value.map RunReport.writes =
        (runOn t config path).1.value.map RunReport.writes) := by
  refine ⟨fun e => runOn_eq_error_iff, fun e he => ?_, fun schema hload => ?_, runOn_policy⟩
  · have hload := runOn_eq_error_iff.mp he
    exact ⟨ofLoading_of_load hload, by rw [runOn_of_error config hload]⟩
  · rw [runOn_of_ok config hload]
    exact ⟨_, rfl, accomplished_writeOutputs config schema t⟩

/-- A current directory with one schema file. -/
def smallTree : Tree where
  entries := [(["work"], .directory), (["work", "s.yaml"], .file "A: {a: u8}\n".toUTF8)]
  here := ["work"]

def smallSchema : Schema := ⟨[⟨"A", [⟨"a", .primitive .u8⟩]⟩]⟩

theorem run_all_or_nothing_small :
    (runOn smallTree Config.standard "missing.yaml").2 = smallTree ∧
      ∃ report, (runOn smallTree Config.standard "s.yaml").1.value = .ok report ∧
        report.allWritten = true ∧
        (runOn smallTree Config.standard "s.yaml").2.read "./structure.rs" =
          .ok (rustModule.render smallSchema).toUTF8 ∧
        (runOn smallTree Config.standard "s.yaml").2.read "./ecmemory.h" =
          .ok (cHeader.render smallSchema).toUTF8 := by
  have hmissing : (load Tree.access "missing.yaml" smallTree).1.value =
      .error (.schemaNotFound "missing.yaml") := rfl
  have hload : (load Tree.access "s.yaml" smallTree).1.value = .ok smallSchema :=
    toOption_eq_some_iff.mp (by decide +kernel)
  have hrustPlace : outputPlace? Config.standard smallTree .rust =
      some ["work", "structure.rs"] := by decide +kernel
  have hcPlace : outputPlace? Config.standard smallTree .c = some ["work", "ecmemory.h"] := by
    decide +kernel
  obtain ⟨herror, hunchanged, -⟩ := run_all_or_nothing smallTree Config.standard "missing.yaml"
  obtain ⟨-, -, hrun, -⟩ := run_all_or_nothing smallTree Config.standard "s.yaml"
  obtain ⟨report, hvalue, h⟩ := hrun smallSchema hload
  obtain ⟨rust, rest, hwrites, hrust, hrest⟩ := List.map_eq_cons_iff.mp h.outcomes
  obtain ⟨c, rest, rfl, hc, hnil⟩ := List.map_eq_cons_iff.mp hrest
  obtain rfl := List.map_eq_nil_iff.mp hnil
  simp only [Prod.mk.injEq, hrustPlace, hcPlace, Option.isSome_some] at hrust hc
  obtain ⟨hrustTarget, hrustPath, hrustOk⟩ := hrust
  obtain ⟨hcTarget, hcPath, hcOk⟩ := hc
  have hrustFile := h.written [] rust [c] hwrites hrustOk fun o' ho' _ hsame => by
    obtain rfl := List.mem_singleton.mp ho'
    rw [hrustPath, hcPath, outputPlace?_eq_some_iff.mp hrustPlace,
      outputPlace?_eq_some_iff.mp hcPlace] at hsame
    simp at hsame
  have hcFile := h.written [rust] c [] hwrites hcOk (by simp)
  rw [hrustTarget, hrustPath] at hrustFile
  rw [hcTarget, hcPath] at hcFile
  refine ⟨(hunchanged _ ((herror _).mpr hmissing)).2, report, hvalue, ?_, hrustFile, hcFile⟩
  simp [RunReport.allWritten, hwrites, hrustOk, hcOk]

end MemMap
