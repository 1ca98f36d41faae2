import MemMap.Proofs.Run

/-!
# MemMap.Proofs.Rerun

Running twice is running once.

A second run reads its schema and writes its files in a tree that the first one changed. No
directory has changed, so every path leads where it led before; the file that the schema is
read from is as it was, unless the first run wrote to it; and putting the same files at the
same places again leaves nothing to change. What may differ is why a file cannot be written:
a name on the way to it that was missing may now be a file.

* `Tree.putAll_congr`, `Tree.putAll_putAll` — a place holds what was put there last, whatever
  it held before;
* `tree_writeOutputs_twice` — writing the same files again;
* `load_writeOutputs` — loading again after the files were written;
* `run_twice` — a second run.
-/

namespace MemMap

open Files

/-! ## Putting things twice -/

namespace Files.Tree

variable {t u : Tree} {p : Place} {ps : List Place}

/-- The tree with some things put at their places, one after another. -/
def putAll (t : Tree) (puts : List (Place × Entry)) : Tree :=
  puts.foldl (fun t e => t.put e.1 e.2) t

/-- The tree with nothing at some places. -/
def without (t : Tree) (ps : List Place) : Tree :=
  { t with entries := t.entries.filter (·.1 ∉ ps) }

/-- At other places than those that are emptied, what was put comes first. -/
theorem without_put (t : Tree) (p : Place) (e : Entry) (ps : List Place) :
    (t.put p e).without ps =
      { t with entries := [(p, e)].filter (·.1 ∉ ps) ++ (t.without (p :: ps)).entries } := by
  have hrest : (t.entries.filter (·.1 ≠ p)).filter (·.1 ∉ ps) =
      t.entries.filter (·.1 ∉ p :: ps) := by
    rw [List.filter_filter]
    refine List.filter_congr fun q _ => ?_
    by_cases hq : q.1 = p <;> simp [hq]
  rw [without, put, ← List.singleton_append, List.filter_append, hrest, without]

/-- **The last thing stays.** Trees that agree apart from some places become the same when
something is put at each of these. -/
theorem putAll_congr {puts : List (Place × Entry)}
    (h : t.without (puts.map Prod.fst) = u.without (puts.map Prod.fst)) :
    t.putAll puts = u.putAll puts := by
  induction puts generalizing t u with
  | nil =>
      have hnil : ∀ w : Tree, w.without [] = w := fun w => by
        rw [without, List.filter_eq_self.mpr (by simp)]
      rwa [List.map_nil, hnil, hnil] at h
  | cons e rest ih =>
      obtain ⟨p, e⟩ := e
      rw [List.map_cons] at h
      have hhere : t.here = u.here := by injection h
      have hput : (t.put p e).without (rest.map Prod.fst) =
          (u.put p e).without (rest.map Prod.fst) := by
        rw [without_put, without_put, hhere, h]
      exact ih hput

/-- Putting things changes nothing apart from their places. -/
theorem without_putAll {puts : List (Place × Entry)} (h : ∀ e ∈ puts, e.1 ∈ ps) :
    (t.putAll puts).without ps = t.without ps := by
  induction puts generalizing t with
  | nil => rfl
  | cons e rest ih =>
      obtain ⟨p, e⟩ := e
      obtain ⟨hp, hrest⟩ := List.forall_mem_cons.mp h
      have hsame : t.without (p :: ps) = t.without ps := by
        rw [without, without]
        refine congrArg (Tree.mk · t.here) (List.filter_congr fun q _ => ?_)
        by_cases hq : q.1 = p <;> simp [hq, hp]
      have hput : (t.put p e).without ps = t.without ps := by
        rw [without_put, hsame, List.filter_cons_of_neg (by simpa using hp), List.filter_nil,
          List.nil_append]
        rfl
      exact (ih hrest).trans hput

/-- **Once is enough.** Putting the same things again changes nothing. -/
theorem putAll_putAll (t : Tree) (puts : List (Place × Entry)) :
    (t.putAll puts).putAll puts = t.putAll puts :=
  putAll_congr (without_putAll fun _ he => List.mem_map_of_mem he)

end Files.Tree

/-! ## Writing the same files again -/

variable {config : Config} {t u : Tree} {path : String} {schema : Schema}
  {files : List GeneratedFile}

/-- What some files put into a tree: those that have a place, at that place. -/
def filePuts (config : Config) (t : Tree) (files : List GeneratedFile) : List (Place × Entry) :=
  files.filterMap fun f =>
    (outputPlace? config t f.target).map fun p => (p, .file f.source.toUTF8)

theorem filePuts_congr (h : t.SameDirectories u) : filePuts config t = filePuts config u := by
  funext files
  rw [filePuts, filePuts, outputPlace?_congr h]

/-- Writing some files puts them into the tree, at the places that they have at first. -/
theorem tree_writeOutputs (config : Config) (files : List GeneratedFile) (t : Tree) :
    (writeOutputs Tree.access config files t).2 = t.putAll (filePuts config t files) := by
  induction files generalizing t with
  | nil => rfl
  | cons f rest ih =>
      have hrest := ih (writeOutput Tree.access config f t).2
      rw [filePuts_congr sameDirectories_writeOutput.symm] at hrest
      rw [writeOutputs_cons, hrest]
      rcases writeOutput_cases config f t with ⟨p, hp, hw⟩ | ⟨e, hp, hw⟩
      · have hputs : filePuts config t (f :: rest) =
            (p, .file f.source.toUTF8) :: filePuts config t rest := by
          simp [filePuts, hp]
        rw [hw, hputs]
        rfl
      · have hputs : filePuts config t (f :: rest) = filePuts config t rest := by
          simp [filePuts, hp]
        rw [hw, hputs]

/-- **Writing twice is writing once.** -/
theorem tree_writeOutputs_twice (config : Config) (files : List GeneratedFile) (t : Tree) :
    (writeOutputs Tree.access config files
        (writeOutputs Tree.access config files t).2).2 =
      (writeOutputs Tree.access config files t).2 := by
  have hdirs := sameDirectories_writeOutputs (t := t) config files
  rw [tree_writeOutputs config files (writeOutputs Tree.access config files t).2,
    filePuts_congr hdirs.symm, tree_writeOutputs config files t, Tree.putAll_putAll]

/-! ## Loading again -/

/-- What is loaded at a path after some files were written, unless one of them was written to
the file that the path leads to. -/
theorem load_writeOutputs (h : (load Tree.access path t).1.value = .ok schema)
    (hfiles : ∀ f ∈ files, ∀ p, outputPlace? config t f.target = some p →
      t.place path ≠ .ok p) :
    (load Tree.access path (writeOutputs Tree.access config files t).2).1 =
      (load Tree.access path t).1 := by
  rw [load_tree, load_tree]
  rw [load_tree] at h
  cases hread : t.read path with
  | error cause =>
      rw [hread] at h
      cases h
  | ok content =>
      have hdirs := sameDirectories_writeOutputs (t := t) config files
      have hfile : ∀ p, t.place path = .ok p →
          (writeOutputs Tree.access config files t).2.get? p = t.get? p := by
        intro p hp
        have hnone := lastFileAt?_eq_none fun f hf hfp => hfiles f hf p hfp hp
        rw [get?_writeOutputs, hnone]
        rfl
      rw [hdirs.read hread hfile]

/-! ## Running again -/

/-- Whether a run writes to the file that its schema is read from: one of its outcomes is a
success for the place where the path leads. -/
def OverwritesSchema (t : Tree) (config : Config) (path : String) : Prop :=
  ∃ report, (runOn t config path).1.value = .ok report ∧
    ∃ o ∈ report.writes, o.isOk = true ∧ ∃ p, t.writePlace o.path = .ok p ∧ t.place path = .ok p

/-- What a report says apart from the causes of failed writes. -/
def RunReport.summary (r : RunReport) : Report × List (Target × String × Bool) :=
  (r.alignment, r.writes.map fun o => (o.target, o.path, o.isOk))

theorem summary_congr (h : t.SameDirectories u) (alignment : Report) (files : List GeneratedFile) :
    RunReport.summary ⟨alignment, (writeOutputs Tree.access config files t).1⟩ =
      RunReport.summary ⟨alignment, (writeOutputs Tree.access config files u).1⟩ := by
  rw [RunReport.summary, RunReport.summary, outcomes_writeOutputs, outcomes_writeOutputs,
    outputPlace?_congr h]

/-- A run that loads its schema overwrites it if one of its files has its place where the path
leads. -/
theorem overwritesSchema_iff (hload : (load Tree.access path t).1.value = .ok schema) :
    OverwritesSchema t config path ↔
      ∃ target p, outputPlace? config t target = some p ∧ t.place path = .ok p := by
  have houtcomes := outcomes_writeOutputs config (generate schema) t
  constructor
  · intro ⟨report, hreport, o, ho, _, p, hp, hpath⟩
    rw [value_runOn_of_ok config hload] at hreport
    obtain rfl := Except.ok.inj hreport
    have hmem := List.mem_map_of_mem (f := fun o => (o.target, o.path, o.isOk)) ho
    rw [houtcomes] at hmem
    obtain ⟨f, _, hf⟩ := List.mem_map.mp hmem
    have hpathOf : outputPath config f.target = o.path := congrArg (·.2.1) hf
    refine ⟨f.target, p, ?_, hpath⟩
    rw [outputPlace?_eq_some_iff, hpathOf, hp]
  · intro ⟨target, p, hp, hpath⟩
    have hfile : generateFor schema target ∈ generate schema :=
      List.mem_map_of_mem (by cases target <;> decide)
    have hmem := List.mem_map_of_mem (f := fun f => (f.target, outputPath config f.target,
      (outputPlace? config t f.target).isSome)) hfile
    rw [← houtcomes] at hmem
    obtain ⟨o, ho, hoEq⟩ := List.mem_map.mp hmem
    have hopath : o.path = outputPath config target := congrArg (·.2.1) hoEq
    have hook : o.isOk = (outputPlace? config t target).isSome := congrArg (·.2.2) hoEq
    rw [hp, Option.isSome_some] at hook
    refine ⟨_, value_runOn_of_ok config hload, o, ho, hook, p, ?_, hpath⟩
    rw [hopath]
    exact outputPlace?_eq_some_iff.mp hp

/-- **Running twice is running once.** Unless a run overwrites its own schema, running again
leaves the tree as it is, and ends with the same error, or with the same report of the check
and a success for the same files. -/
theorem run_twice (t : Tree) (config : Config) (path : String)
    (h : ¬ OverwritesSchema t config path) :
    (runOn (runOn t config path).2 config path).2 = (runOn t config path).2 ∧
      (runOn (runOn t config path).2 config path).1.value.map RunReport.summary =
        (runOn t config path).1.value.map RunReport.summary := by
  cases hload : (load Tree.access path t).1.value with
  | error e =>
      rw [runOn_of_error config hload, runOn_of_error config hload]
      exact ⟨rfl, rfl⟩
  | ok schema =>
      have hagain : (load Tree.access path
          (writeOutputs Tree.access config (generate schema) t).2).1 =
            (load Tree.access path t).1 := by
        refine load_writeOutputs hload fun f _ p hp hpath => h ?_
        exact (overwritesSchema_iff hload).mpr ⟨f.target, p, hp, hpath⟩
      have hdirs := sameDirectories_writeOutputs (t := t) config (generate schema)
      have hloadAgain := (congrArg Logged.value hagain).trans hload
      rw [tree_runOn_of_ok config hload, value_runOn_of_ok config hload,
        tree_runOn_of_ok config hloadAgain, value_runOn_of_ok config hloadAgain]
      refine ⟨tree_writeOutputs_twice config (generate schema) t, ?_⟩
      exact congrArg Except.ok (summary_congr hdirs.symm _ _)

/-- The name of one file leads through the other. -/
def throughConfig : Config := { Config.standard with rustFileName := "x/y", cFileName := "x" }

/-- What keeps each file of a run from being written, if anything. -/
def failures (r : Logged (Except Error RunReport) × Tree) : Option (List (Option Fault)) :=
  r.1.value.toOption.map fun report => report.writes.map WriteOutcome.failure

theorem run_twice_through :
    ¬ OverwritesSchema smallTree throughConfig "s.yaml" ∧
      (runOn (runOn smallTree throughConfig "s.yaml").2 throughConfig "s.yaml").2 =
        (runOn smallTree throughConfig "s.yaml").2 ∧
      (runOn (runOn smallTree throughConfig "s.yaml").2 throughConfig "s.yaml").1.value.map
          RunReport.summary =
        (runOn smallTree throughConfig "s.yaml").1.value.map RunReport.summary ∧
      failures (runOn smallTree throughConfig "s.yaml") = some [some .notFound, none] ∧
      failures (runOn (runOn smallTree throughConfig "s.yaml").2 throughConfig "s.yaml") =
        some [some .notADirectory, none] := by
  have hload : (load Tree.access "s.yaml" smallTree).1.value = .ok smallSchema :=
    toOption_eq_some_iff.mp (by decide +kernel)
  have hpath : smallTree.place "s.yaml" = .ok ["work", "s.yaml"] :=
    toOption_eq_some_iff.mp (by decide +kernel)
  have hplaces : ∀ target, outputPlace? throughConfig smallTree target ≠
      some ["work", "s.yaml"] := by
    intro target
    cases target <;> decide +kernel
  have hover : ¬ OverwritesSchema smallTree throughConfig "s.yaml" := by
    rw [overwritesSchema_iff hload]
    intro ⟨target, p, hp, hpath'⟩
    rw [hpath] at hpath'
    obtain rfl := Except.ok.inj hpath'
    exact hplaces target hp
  obtain ⟨htree, hsummary⟩ := run_twice smallTree throughConfig "s.yaml" hover
  exact ⟨hover, htree, hsummary, by decide +kernel, by decide +kernel⟩

end MemMap
