import MemMap.Generator
import MemMap.Proofs.Places

/-!
# MemMap.Proofs.Writing

What writing some files does to a tree.

Files are written one after another, and their paths may lead to the same place or through
one another. Still each write goes its own way: it succeeds if there is a place for its file,
and the places in a tree are those of all trees with the same directories
(`Tree.writePlace_congr`). No write changes a directory, so every file has the place, or has
none, that it has in the tree before all writes, and the last file with a place is what lies
there at the end.

* `isOk_writeOutput`, `get?_writeOutput` — one write, by the place of its file;
* `sameDirectories_writeOutputs` — the invariant of some writes;
* `outcomes_writeOutputs`, `get?_writeOutputs` — some writes, by the places before them;
* `writes_independent` — the outcomes and the tree after some writes.
-/

namespace MemMap

open Files

variable {config : Config} {t u : Tree} {f : GeneratedFile} {files : List GeneratedFile}
  {p : Place}

theorem toOption_eq_some_iff {ε α : Type} {r : Except ε α} {a : α} :
    r.toOption = some a ↔ r = .ok a := by
  cases r <;> simp [Except.toOption]

/-! ## One write -/

/-- The place where the file of a target is written, if there is one. -/
def outputPlace? (config : Config) (t : Tree) (target : Target) : Option Place :=
  (t.writePlace (outputPath config target)).toOption

theorem outputPlace?_eq_some_iff {target : Target} :
    outputPlace? config t target = some p ↔ t.writePlace (outputPath config target) = .ok p :=
  toOption_eq_some_iff

theorem outputPlace?_congr (h : t.SameDirectories u) :
    outputPlace? config t = outputPlace? config u := by
  funext target
  refine Option.ext fun p => ?_
  rw [outputPlace?_eq_some_iff, outputPlace?_eq_some_iff, Tree.writePlace_congr h]

/-- A write puts the file at its place, or leaves the tree as it is. -/
theorem writeOutput_cases (config : Config) (f : GeneratedFile) (t : Tree) :
    (∃ p, outputPlace? config t f.target = some p ∧
      writeOutput Tree.access config f t =
        (⟨f.target, outputPath config f.target, f.source.toUTF8.size, none⟩,
          t.put p (.file f.source.toUTF8))) ∨
    (∃ e, outputPlace? config t f.target = none ∧
      writeOutput Tree.access config f t =
        (⟨f.target, outputPath config f.target, f.source.toUTF8.size, some e⟩, t)) := by
  rw [writeOutput]
  simp only [Tree.access, bind, StateT.bind]
  cases hwrite : t.write (outputPath config f.target) f.source.toUTF8 with
  | ok u =>
      obtain ⟨p, hp, rfl⟩ := Tree.write_eq_ok_iff.mp hwrite
      exact .inl ⟨p, outputPlace?_eq_some_iff.mpr hp, rfl⟩
  | error e =>
      refine .inr ⟨e, Option.eq_none_iff_forall_ne_some.mpr fun p hp => ?_, rfl⟩
      have hok : t.write (outputPath config f.target) f.source.toUTF8 =
          .ok (t.put p (.file f.source.toUTF8)) :=
        Tree.write_eq_ok_iff.mpr ⟨p, outputPlace?_eq_some_iff.mp hp, rfl⟩
      rw [hwrite] at hok
      cases hok

@[simp]
theorem target_writeOutput : (writeOutput Tree.access config f t).1.target = f.target := by
  rcases writeOutput_cases config f t with ⟨_, -, h⟩ | ⟨_, -, h⟩ <;> rw [h]

@[simp]
theorem path_writeOutput :
    (writeOutput Tree.access config f t).1.path = outputPath config f.target := by
  rcases writeOutput_cases config f t with ⟨_, -, h⟩ | ⟨_, -, h⟩ <;> rw [h]

/-- **A write succeeds** where there is a place for its file. -/
theorem isOk_writeOutput :
    (writeOutput Tree.access config f t).1.isOk = (outputPlace? config t f.target).isSome := by
  rcases writeOutput_cases config f t with ⟨p, hp, h⟩ | ⟨e, hp, h⟩ <;> rw [h, hp] <;> rfl

/-- A write that fails changes nothing. -/
theorem tree_writeOutput_of_not_isOk (h : (writeOutput Tree.access config f t).1.isOk = false) :
    (writeOutput Tree.access config f t).2 = t := by
  rcases writeOutput_cases config f t with ⟨p, -, hw⟩ | ⟨e, -, hw⟩ <;> rw [hw] at h ⊢
  cases h

theorem sameDirectories_writeOutput :
    t.SameDirectories (writeOutput Tree.access config f t).2 := by
  rcases writeOutput_cases config f t with ⟨p, hp, h⟩ | ⟨e, -, h⟩ <;> rw [h]
  · exact Tree.sameDirectories_put (outputPlace?_eq_some_iff.mp hp) _
  · exact .refl t

/-- **What a write shows.** The file is found at its place, and nothing changes elsewhere. -/
theorem get?_writeOutput :
    (writeOutput Tree.access config f t).2.get? p =
      if outputPlace? config t f.target = some p then some (.file f.source.toUTF8)
      else t.get? p := by
  rcases writeOutput_cases config f t with ⟨q, hq, h⟩ | ⟨e, hq, h⟩ <;> rw [h, hq]
  · have hne := Tree.ne_nil_of_writePlace (outputPlace?_eq_some_iff.mp hq)
    simp only [Tree.get?_put t hne, Option.some.injEq, eq_comm]
  · rfl

/-! ## Some writes -/

theorem writeOutputs_cons :
    writeOutputs Tree.access config (f :: files) t =
      ((writeOutput Tree.access config f t).1 ::
          (writeOutputs Tree.access config files (writeOutput Tree.access config f t).2).1,
        (writeOutputs Tree.access config files (writeOutput Tree.access config f t).2).2) := by
  rw [writeOutputs]
  rfl

/-- **No directory changes.** -/
theorem sameDirectories_writeOutputs (config : Config) (files : List GeneratedFile) :
    t.SameDirectories (writeOutputs Tree.access config files t).2 := by
  induction files generalizing t with
  | nil => exact .refl t
  | cons f rest ih =>
      rw [writeOutputs_cons]
      exact sameDirectories_writeOutput.trans ih

/-- After a write, files have the places that they had before it. -/
theorem outputPlace?_writeOutput :
    outputPlace? config (writeOutput Tree.access config f t).2 = outputPlace? config t :=
  outputPlace?_congr sameDirectories_writeOutput.symm

/-- **Outcomes are independent.** Each file is written if it had a place at first. -/
theorem outcomes_writeOutputs (config : Config) (files : List GeneratedFile) (t : Tree) :
    (writeOutputs Tree.access config files t).1.map (fun o => (o.target, o.path, o.isOk)) =
      files.map fun f => (f.target, outputPath config f.target,
        (outputPlace? config t f.target).isSome) := by
  induction files generalizing t with
  | nil => rfl
  | cons f rest ih => simp [writeOutputs_cons, ih, isOk_writeOutput, outputPlace?_writeOutput]

/-- The last of some files that has its place at `p`. -/
def lastFileAt? (config : Config) (t : Tree) (files : List GeneratedFile) (p : Place) :
    Option GeneratedFile :=
  files.reverse.find? fun f => outputPlace? config t f.target = some p

theorem lastFileAt?_cons :
    lastFileAt? config t (f :: files) p =
      (lastFileAt? config t files p).or
        (if outputPlace? config t f.target = some p then some f else none) := by
  by_cases hf : outputPlace? config t f.target = some p <;>
    simp [lastFileAt?, List.find?_append, hf]

theorem lastFileAt?_congr (h : t.SameDirectories u) :
    lastFileAt? config t = lastFileAt? config u := by
  funext files p
  rw [lastFileAt?, lastFileAt?, outputPlace?_congr h]

theorem lastFileAt?_eq_none (h : ∀ f ∈ files, outputPlace? config t f.target ≠ some p) :
    lastFileAt? config t files p = none := by
  simpa [lastFileAt?] using h

theorem lastFileAt?_eq_some (before : List GeneratedFile) {later : List GeneratedFile}
    (hf : outputPlace? config t f.target = some p)
    (hlater : ∀ g ∈ later, outputPlace? config t g.target ≠ some p) :
    lastFileAt? config t (before ++ f :: later) p = some f := by
  have hnone : later.reverse.find? (fun g => outputPlace? config t g.target = some p) = none :=
    lastFileAt?_eq_none hlater
  simp [lastFileAt?, List.find?_append, hf, hnone]

/-- **The last write stands.** Every place shows the last file that has its place there, or
else what it showed before. -/
theorem get?_writeOutputs :
    (writeOutputs Tree.access config files t).2.get? p =
      ((lastFileAt? config t files p).map fun f => Entry.file f.source.toUTF8).or (t.get? p) := by
  induction files generalizing t with
  | nil => rfl
  | cons f rest ih =>
      rw [writeOutputs_cons, ih, get?_writeOutput, lastFileAt?_cons,
        lastFileAt?_congr sameDirectories_writeOutput.symm]
      cases lastFileAt? config t rest p with
      | some g => rfl
      | none => by_cases hf : outputPlace? config t f.target = some p <;> simp [hf]

/-- **What is read back.** At every path that leads to a place stands the last file there. -/
theorem read_writeOutputs {text : String} (htext : t.writePlace text = .ok p)
    (hf : lastFileAt? config t files p = some f) :
    (writeOutputs Tree.access config files t).2.read text = .ok f.source.toUTF8 := by
  have hdirs := sameDirectories_writeOutputs (t := t) config files
  refine Tree.read_eq_ok_of_writePlace ((Tree.writePlace_congr hdirs).mp htext) ?_
  rw [get?_writeOutputs, hf]
  rfl

/-- **Failures leave nothing behind.** Without the files that have no place, the tree ends up
the same. -/
theorem tree_writeOutputs_filter :
    (writeOutputs Tree.access config
        (files.filter fun f => (outputPlace? config t f.target).isSome) t).2 =
      (writeOutputs Tree.access config files t).2 := by
  induction files generalizing t with
  | nil => rfl
  | cons f rest ih =>
      have hrest := ih (t := (writeOutput Tree.access config f t).2)
      rw [outputPlace?_writeOutput] at hrest
      rw [List.filter_cons, writeOutputs_cons, ← hrest]
      split
      next => rfl
      next hf =>
        have hfail := isOk_writeOutput.trans (Bool.eq_false_iff.mpr hf)
        rw [tree_writeOutput_of_not_isOk hfail]

/-- An outcome that is a success, when no later one is a success for the same place, is that of
the file read back at its path. -/
theorem read_of_isOk {before later : List WriteOutcome} {o : WriteOutcome}
    (h : (writeOutputs Tree.access config files t).1 = before ++ o :: later)
    (ho : o.isOk = true)
    (hlater : ∀ g ∈ later, g.isOk = true → t.writePlace g.path ≠ t.writePlace o.path) :
    ∃ f ∈ files, f.target = o.target ∧
      (writeOutputs Tree.access config files t).2.read o.path = .ok f.source.toUTF8 := by
  have houtcomes := outcomes_writeOutputs config files t
  rw [h, List.map_append, eq_comm, List.map_eq_append_iff] at houtcomes
  obtain ⟨front, back, rfl, -, hback⟩ := houtcomes
  obtain ⟨f, rest, rfl, hf, hrest⟩ := List.map_eq_cons_iff.mp hback
  simp only [Prod.mk.injEq, ho, Option.isSome_iff_exists] at hf
  obtain ⟨htarget, hpath, p, hp⟩ := hf
  have hplace : t.writePlace o.path = .ok p := hpath ▸ outputPlace?_eq_some_iff.mp hp
  have houtcome : ∀ g ∈ rest, ∃ o' ∈ later, o'.path = outputPath config g.target ∧
      o'.isOk = (outputPlace? config t g.target).isSome := by
    intro g hg
    have hmem := List.mem_map_of_mem (f := fun f => (f.target, outputPath config f.target,
      (outputPlace? config t f.target).isSome)) hg
    rw [hrest] at hmem
    obtain ⟨o', ho', heq⟩ := List.mem_map.mp hmem
    simp only [Prod.mk.injEq] at heq
    exact ⟨o', ho', heq.2⟩
  have hlast : ∀ g ∈ rest, outputPlace? config t g.target ≠ some p := by
    intro g hg hgp
    obtain ⟨o', ho', hpath', hok'⟩ := houtcome g hg
    refine hlater o' ho' (by rw [hok', hgp, Option.isSome_some]) ?_
    rw [hpath', hplace, outputPlace?_eq_some_iff.mp hgp]
  exact ⟨f, by simp, htarget, read_writeOutputs hplace (lastFileAt?_eq_some front hp hlast)⟩

/-! ## Independence -/

/-- What comes of writing some files, told of each file by itself and the tree before. -/
structure WrittenApart (config : Config) (files : List GeneratedFile) (t : Tree)
    (outcomes : List WriteOutcome) (after : Tree) : Prop where
  /-- There is one outcome for each file, in order, and it is a success exactly if it would be
  for the only file. -/
  outcomes : outcomes.map (fun o => (o.target, o.path, o.isOk)) =
    files.map fun f => (f.target, joinPath config.outputDir (f.target.fileName config),
      (writeOutput Tree.access config f t).1.isOk)
  /-- As the only one, a file is written exactly if there is a place for it. -/
  place : ∀ f, (writeOutput Tree.access config f t).1.isOk = true ↔
    ∃ p, outputPlace? config t f.target = some p
  /-- The last file at a place lies there, and is read back at its path. -/
  last : ∀ before f later p, files = before ++ f :: later →
    outputPlace? config t f.target = some p →
    (∀ g ∈ later, outputPlace? config t g.target ≠ some p) →
      after.get? p = some (.file f.source.toUTF8) ∧
        after.read (outputPath config f.target) = .ok f.source.toUTF8
  /-- Where no file has its place, nothing changes. -/
  elsewhere : ∀ p, (∀ f ∈ files, outputPlace? config t f.target ≠ some p) →
    after.get? p = t.get? p
  directories : t.SameDirectories after
  /-- The files that are not written might as well not be there. -/
  failures : (writeOutputs Tree.access config
    (files.filter fun f => (writeOutput Tree.access config f t).1.isOk) t).2 = after

/-- **Writes are independent.** Whatever the files and wherever their paths lead, each is
written as if it were the only one, and of those at one place the last stays. -/
theorem writes_independent (config : Config) (files : List GeneratedFile) (t : Tree) :
    ∃ outcomes after, writeOutputs Tree.access config files t = (outcomes, after) ∧
      WrittenApart config files t outcomes after := by
  refine ⟨_, _, rfl, ?_⟩
  constructor
  case outcomes =>
    simp only [outcomes_writeOutputs, isOk_writeOutput]
    rfl
  case place => simp only [isOk_writeOutput, Option.isSome_iff_exists, implies_true]
  case last =>
    rintro before f later p rfl hf hlater
    have hlast := lastFileAt?_eq_some before hf hlater
    refine ⟨?_, read_writeOutputs (outputPlace?_eq_some_iff.mp hf) hlast⟩
    rw [get?_writeOutputs, hlast]
    rfl
  case elsewhere =>
    intro p hp
    rw [get?_writeOutputs, lastFileAt?_eq_none hp]
    rfl
  case directories => exact sameDirectories_writeOutputs config files
  case failures =>
    simp only [isOk_writeOutput]
    exact tree_writeOutputs_filter

/-- Two names for one file, of which one leads through a directory. -/
def aliasConfig : Config := { Config.standard with rustFileName := "x", cFileName := "d/../x" }

def aliasTree : Tree where
  entries := [(["work"], .directory), (["work", "d"], .directory),
    (["work", "old"], .file "kept".toUTF8)]
  here := ["work"]

theorem writes_independent_alias :
    outputPlace? aliasConfig aliasTree .rust = some ["work", "x"] ∧
      outputPlace? aliasConfig aliasTree .c = some ["work", "x"] ∧
      ∃ outcomes after,
        writeOutputs Tree.access aliasConfig [⟨.rust, "first"⟩, ⟨.c, "second"⟩] aliasTree =
          (outcomes, after) ∧
        outcomes.map (·.isOk) = [true, true] ∧
        after.get? ["work", "x"] = some (.file "second".toUTF8) ∧
        after.get? ["work", "old"] = some (.file "kept".toUTF8) := by
  have hrust : outputPlace? aliasConfig aliasTree .rust = some ["work", "x"] := by decide +kernel
  have hc : outputPlace? aliasConfig aliasTree .c = some ["work", "x"] := by decide +kernel
  obtain ⟨outcomes, after, hrun, h⟩ :=
    writes_independent aliasConfig [⟨.rust, "first"⟩, ⟨.c, "second"⟩] aliasTree
  refine ⟨hrust, hc, outcomes, after, hrun, ?_, ?_, ?_⟩
  · simpa [isOk_writeOutput, hrust, hc, Function.comp_def] using
      congrArg (List.map (·.2.2)) h.outcomes
  · exact (h.last [⟨.rust, "first"⟩] ⟨.c, "second"⟩ [] _ rfl hc (by simp)).1
  · rw [h.elsewhere _ (by simp [hrust, hc])]
    rfl

end MemMap
