import MemMap.CommandLine
import MemMap.Proofs.Run

/-!
# MemMap.Proofs.Responses

What the command line tells of what it did.

A command line is a usage error, a question about the program, or a request to generate from
its only positional argument (`ofArguments_eq_generate_iff`). Only the last touches files,
and what it says of them is what the run says: an error that ended it, or the warnings in
schema order and one message for each of the two files, on the output if the file was
written and on the error output otherwise. The status is zero exactly if both were.

* `Request.positionals` — the arguments that are no options;
* `WriteOutcome.lines_cases` — what the response says of one file;
* `output_ofRun`, `errors_ofRun` — the two texts of a response, message by message;
* `outputPlace?_standard` — where the two files of the standard configuration go;
* `respond_reports` — the response to all arguments on all trees.
-/

namespace MemMap

open Files

/-! ## Arguments -/

namespace Request

/-- The arguments up to the mark behind which there are no options. -/
def beforeMark (arguments : List String) : List String :=
  arguments.takeWhile (· ≠ "--")

/-- The arguments that are no options: those before the mark that do not look like one, and
all behind it. -/
def positionals (arguments : List String) : List String :=
  (beforeMark arguments).filter (!isOption ·) ++ (arguments.dropWhile (· ≠ "--")).tail

theorem ofOption_ne_generate (argument path : String) : ofOption argument ≠ .generate path := by
  unfold ofOption
  repeat' split
  all_goals simp

/-- Behind the mark, every argument is a path. -/
theorem ofArgumentsFrom_true_eq_generate_iff {met : Option String} {arguments : List String}
    {path : String} :
    ofArgumentsFrom met true arguments = .generate path ↔
      met.toList ++ arguments = [path] ∧ ∀ a ∈ arguments, a ≠ "" := by
  induction arguments generalizing met with
  | nil => cases met <;> simp [ofArgumentsFrom]
  | cons a rest ih =>
      cases met with
      | some p => simp [ofArgumentsFrom]
      | none =>
          by_cases ha : a = ""
          · simp [ofArgumentsFrom, ha]
          · simp [ofArgumentsFrom, ha, ih]

/-- Before the mark, arguments are options or paths; the arguments met before are `met`. -/
theorem ofArgumentsFrom_false_eq_generate_iff {met : Option String} {arguments : List String}
    {path : String} :
    ofArgumentsFrom met false arguments = .generate path ↔
      met.toList ++ positionals arguments = [path] ∧ (∀ a ∈ positionals arguments, a ≠ "") ∧
        ∀ a ∈ beforeMark arguments, isOption a = false := by
  induction arguments generalizing met with
  | nil => cases met <;> simp [ofArgumentsFrom, positionals, beforeMark]
  | cons a rest ih =>
      by_cases hmark : a = "--"
      · simp [ofArgumentsFrom, positionals, beforeMark, hmark,
          ofArgumentsFrom_true_eq_generate_iff]
      · have hbefore : beforeMark (a :: rest) = a :: beforeMark rest := by
          simp [beforeMark, hmark]
        cases hoption : isOption a with
        | true => simp [ofArgumentsFrom, hmark, hoption, hbefore, ofOption_ne_generate]
        | false =>
            have hpos : positionals (a :: rest) = a :: positionals rest := by
              simp [positionals, beforeMark, hmark, hoption]
            cases met with
            | some p => simp [ofArgumentsFrom, hmark, hoption, hpos]
            | none =>
                by_cases ha : a = ""
                · subst ha
                  simp [ofArgumentsFrom, hoption, hpos]
                · simp [ofArgumentsFrom, hmark, hoption, ha, hpos, hbefore, ih]

/-- **One path.** A command line asks to generate from a path if and only if that path is its
only positional argument, is not empty, and no option stands before the mark. -/
theorem ofArguments_eq_generate_iff {arguments : List String} {path : String} :
    ofArguments arguments = .generate path ↔ positionals arguments = [path] ∧ path ≠ "" ∧
      ∀ a ∈ beforeMark arguments, isOption a = false := by
  rw [ofArguments, ofArgumentsFrom_false_eq_generate_iff, Option.toList_none, List.nil_append]
  constructor
  · intro ⟨hpos, hne, hoptions⟩
    exact ⟨hpos, hne path (by simp [hpos]), hoptions⟩
  · intro ⟨hpos, hne, hoptions⟩
    exact ⟨hpos, by simpa [hpos] using hne, hoptions⟩

end Request

/-! ## Messages -/

variable {t : Tree} {path : String} {arguments : List String}
  {yamlText : Yaml.Fault → String}

/-- The messages of the files that were written, in order. -/
def RunReport.okMessages (report : RunReport) : List String :=
  (report.writes.filter WriteOutcome.isOk).map fun o =>
    "[OK] " ++ o.target.profile.language ++ " code has been written to " ++ o.path ++ "\n"

/-- The messages of the files that were not written, in order. -/
def RunReport.errorMessages (yamlText : Yaml.Fault → String) (report : RunReport) :
    List String :=
  (report.writes.filterMap WriteOutcome.error?).map fun e =>
    "[ERROR] " ++ e.messageWith yamlText ++ "\n"

/-- The messages of the warnings, in order. -/
def RunReport.warningMessages (report : RunReport) : List String :=
  report.alignment.warnings.map fun w => w.text ++ "\n"

/-- **One message for an outcome.** It is a success with a line for the output only, or it has
an error with a line for the error output only. -/
theorem WriteOutcome.lines_cases (yamlText : Yaml.Fault → String) (o : WriteOutcome) :
    (o.isOk = true ∧ o.error? = none ∧ o.outputLine = writtenLine o ∧
        o.errorLine yamlText = "") ∨
      ∃ e, o.isOk = false ∧ o.error? = some e ∧ o.outputLine = "" ∧
        o.errorLine yamlText = MemMap.errorLine yamlText e := by
  have hok : o.isOk = o.error?.isNone := by rw [isOk, error?, Option.isNone_map]
  cases herror : o.error? with
  | none =>
      rw [herror, Option.isNone_none] at hok
      have hline : o.outputLine = writtenLine o := by rw [outputLine, herror]
      have hnone : o.errorLine yamlText = "" := by rw [errorLine, herror]
      exact .inl ⟨hok, rfl, hline, hnone⟩
  | some e =>
      rw [herror, Option.isNone_some] at hok
      have hnone : o.outputLine = "" := by rw [outputLine, herror]
      have hline : o.errorLine yamlText = MemMap.errorLine yamlText e := by
        rw [errorLine, herror]
      exact .inr ⟨e, hok, rfl, hnone, hline⟩

theorem output_ofRun (yamlText : Yaml.Fault → String) (report : RunReport) :
    (Response.ofRun yamlText (.ok report)).output =
      String.join report.warningMessages ++ String.join report.okMessages := by
  obtain ⟨alignment, writes⟩ := report
  have hjoin : String.join (writes.map WriteOutcome.outputLine) =
      String.join (RunReport.okMessages ⟨alignment, writes⟩) := by
    unfold RunReport.okMessages
    induction writes with
    | nil => rfl
    | cons o rest ih =>
        rw [List.map_cons, String.join_cons, ih]
        rcases o.lines_cases yamlText with ⟨hok, -, hline, -⟩ | ⟨e, hok, -, hline, -⟩
        · rw [hline, List.filter_cons_of_pos hok, List.map_cons, String.join_cons, writtenLine]
        · rw [hline, List.filter_cons_of_neg (by simp [hok]), String.empty_append]
  exact congrArg (_ ++ ·) hjoin

theorem errors_ofRun (yamlText : Yaml.Fault → String) (report : RunReport) :
    (Response.ofRun yamlText (.ok report)).errors =
      String.join (report.errorMessages yamlText) := by
  obtain ⟨alignment, writes⟩ := report
  show String.join (writes.map (WriteOutcome.errorLine yamlText)) = _
  unfold RunReport.errorMessages
  induction writes with
  | nil => rfl
  | cons o rest ih =>
      rw [List.map_cons, String.join_cons, ih]
      rcases o.lines_cases yamlText with ⟨-, hnone, -, hline⟩ | ⟨e, -, hsome, -, hline⟩
      · rw [hline, List.filterMap_cons_none hnone, String.empty_append]
      · rw [hline, List.filterMap_cons_some hsome, List.map_cons, String.join_cons, errorLine]

/-- Every outcome has one message. -/
theorem length_messages (yamlText : Yaml.Fault → String) (report : RunReport) :
    report.okMessages.length + (report.errorMessages yamlText).length =
      report.writes.length := by
  obtain ⟨alignment, writes⟩ := report
  simp only [RunReport.okMessages, RunReport.errorMessages, List.length_map]
  induction writes with
  | nil => rfl
  | cons o rest ih =>
      rcases o.lines_cases yamlText with ⟨hok, hnone, -, -⟩ | ⟨e, hok, hsome, -, -⟩
      · rw [List.filter_cons_of_pos hok, List.filterMap_cons_none hnone, List.length_cons,
          List.length_cons]
        omega
      · rw [List.filter_cons_of_neg (by simp [hok]), List.filterMap_cons_some hsome,
          List.length_cons, List.length_cons]
        omega

/-! ## The two files -/

/-- **Where the files go.** The standard configuration writes its two files into the current
directory. -/
theorem outputPlace?_standard {target : Target} {p : Place}
    (h : outputPlace? .standard t target = some p) :
    p = t.here ++ [target.fileName .standard] := by
  obtain ⟨steps, name, q, hsteps, hname, hq, hfile⟩ :=
    Tree.writePlace_eq_ok_iff.mp (outputPlace?_eq_some_iff.mp h)
  have hchecked : Tree.checkedPath (outputPath .standard target) =
      .ok ⟨false, [".", target.fileName .standard], false⟩ := by
    cases target <;> exact toOption_eq_some_iff.mp (by decide +kernel)
  rw [hchecked] at hsteps
  obtain rfl := Except.ok.inj hsteps
  have hnameOf : name = target.fileName .standard := by simpa [eq_comm] using hname
  obtain ⟨r, hr, hrq⟩ := Tree.follow_cons_eq_ok_iff.mp hq
  have hrq : r = q := by simpa [Tree.follow] using hrq
  have hhere : t.here = r := by
    obtain ⟨-, hdot⟩ := Tree.step_eq_ok_iff.mp hr
    simpa [Tree.origin] using hdot
  obtain ⟨-, -, -, -, -, -, hp⟩ := Tree.fileIn_eq_ok_iff.mp hfile
  rw [← hp, ← hrq, ← hhere, hnameOf]

/-! ## Responses -/

/-- A request to generate responds with what its run ended with. -/
theorem respond_generate (h : Request.ofArguments arguments = .generate path) :
    respond Tree.access yamlText arguments t =
      (Response.ofRun yamlText (runOn t .standard path).1.value, (runOn t .standard path).2) := by
  rw [respond, h]
  rfl

/-- What the response to a run of a schema that loads has to do with the report of the run and
the trees before and after it. -/
structure Reported (yamlText : Yaml.Fault → String) (t : Tree) (path : String)
    (report : RunReport) (response : Response) (after : Tree) : Prop where
  /-- The warnings are those of the loaded schema. -/
  alignment : ∃ schema, (load Tree.access path t).1.value = .ok schema ∧
    report.alignment = checkAlignment .standard schema
  output : response.output =
    String.join report.warningMessages ++ String.join report.okMessages
  errors : response.errors = String.join (report.errorMessages yamlText)
  /-- One outcome for each of the two files, the Rust module first. -/
  files : report.writes.map (fun o => (o.target, o.path)) =
    [(.rust, "./structure.rs"), (.c, "./ecmemory.h")]
  messages : report.okMessages.length + (report.errorMessages yamlText).length = 2
  /-- The status does not look at the warnings. -/
  status : response.status = if ∀ o ∈ report.writes, o.isOk = true then 0 else 1
  here : after.here = t.here
  elsewhere : ∀ p, p ≠ t.here ++ ["structure.rs"] → p ≠ t.here ++ ["ecmemory.h"] →
    after.get? p = t.get? p

theorem reported_of_load {schema : Schema}
    (hload : (load Tree.access path t).1.value = .ok schema) :
    Reported yamlText t path
      ⟨checkAlignment .standard schema,
        (writeOutputs Tree.access .standard (generate schema) t).1⟩
      (Response.ofRun yamlText (.ok ⟨checkAlignment .standard schema,
        (writeOutputs Tree.access .standard (generate schema) t).1⟩))
      (writeOutputs Tree.access .standard (generate schema) t).2 := by
  have hacc := accomplished_writeOutputs .standard schema t
  have hfiles : (writeOutputs Tree.access .standard (generate schema) t).1.map
      (fun o => (o.target, o.path)) = [(.rust, "./structure.rs"), (.c, "./ecmemory.h")] := by
    have h := congrArg (List.map fun o => (o.1, o.2.1)) hacc.outcomes
    rw [List.map_map] at h
    exact h
  constructor
  case alignment => exact ⟨schema, hload, rfl⟩
  case output => exact output_ofRun yamlText _
  case errors => exact errors_ofRun yamlText _
  case files => exact hfiles
  case messages =>
    rw [length_messages]
    simpa using congrArg List.length hfiles
  case status => simp [Response.ofRun, RunReport.allWritten, List.all_eq_true]
  case here => exact (sameDirectories_writeOutputs .standard (generate schema)).here.symm
  case elsewhere =>
    intro p hrust hc
    refine hacc.elsewhere p fun target hp => ?_
    have hplace := outputPlace?_standard hp
    cases target
    · exact hrust hplace
    · exact hc hplace

/-- **The command line reports what happened.** A usage error has status 2 and a question
about the program status 0, and neither touches a file. All other arguments hold one path. If
the run from there ends with an error, its account is all that is told, the status is 1, and
no file is touched. Otherwise the output holds the warnings and a message for each file that
was written, the error output a message for each that was not, two in all; the status is 0 if
both were written and 1 otherwise, and nothing but the two files differs from before. -/
theorem respond_reports (t : Tree) (yamlText : Yaml.Fault → String) (arguments : List String) :
    (Request.ofArguments arguments = .usageError →
      (respond Tree.access yamlText arguments t).1.status = 2 ∧
        (respond Tree.access yamlText arguments t).2 = t) ∧
    (Request.ofArguments arguments = .help ∨ Request.ofArguments arguments = .version →
      (respond Tree.access yamlText arguments t).1.status = 0 ∧
        (respond Tree.access yamlText arguments t).2 = t) ∧
    ∀ path, Request.ofArguments arguments = .generate path →
      Request.positionals arguments = [path] ∧
      (∀ e, (runOn t .standard path).1.value = .error e →
        respond Tree.access yamlText arguments t =
          (⟨1, "", "[ERROR] " ++ e.messageWith yamlText ++ "\n"⟩, t)) ∧
      ∀ report, (runOn t .standard path).1.value = .ok report →
        Reported yamlText t path report (respond Tree.access yamlText arguments t).1
          (respond Tree.access yamlText arguments t).2 := by
  refine ⟨fun h => ?usage, fun h => ?question, fun path h => ⟨?positional, ?failed, ?done⟩⟩
  case usage =>
    rw [respond, h]
    exact ⟨rfl, rfl⟩
  case question =>
    rw [respond]
    rcases h with h | h <;> rw [h] <;> exact ⟨rfl, rfl⟩
  case positional => exact (Request.ofArguments_eq_generate_iff.mp h).1
  case failed =>
    intro e he
    have hload := runOn_eq_error_iff.mp he
    rw [respond_generate h, runOn_of_error .standard hload]
    rfl
  case done =>
    intro report hreport
    rw [respond_generate h]
    cases hload : (load Tree.access path t).1.value with
    | error e =>
        rw [runOn_of_error .standard hload] at hreport
        cases hreport
    | ok schema =>
        rw [value_runOn_of_ok .standard hload] at hreport
        obtain rfl := Except.ok.inj hreport
        rw [value_runOn_of_ok .standard hload, tree_runOn_of_ok .standard hload]
        exact reported_of_load hload

/-- A directory stands where the Rust module would go. -/
def blockedTree : Tree where
  entries := [(["work"], .directory), (["work", "structure.rs"], .directory),
    (["work", "s.yaml"], .file "A: {a: u8}\n".toUTF8)]
  here := ["work"]

theorem respond_reports_blocked :
    Request.ofArguments ["--", "s.yaml"] = .generate "s.yaml" ∧
      (respond Tree.access Yaml.Fault.message ["--", "s.yaml"] blockedTree).1 =
        ⟨1, "Warning: A is not 32-bit aligned. Size: 1 bytes\n" ++
              "[OK] C code has been written to ./ecmemory.h\n",
          "[ERROR] An error occurred while writing to ./structure.rs: " ++
            "Is a directory (os error 21)\n"⟩ ∧
      (respond Tree.access Yaml.Fault.message ["--", "s.yaml"] blockedTree).2.get?
        ["work", "s.yaml"] = some (.file "A: {a: u8}\n".toUTF8) := by
  have hrequest : Request.ofArguments ["--", "s.yaml"] = .generate "s.yaml" := by decide
  have hload : (load Tree.access "s.yaml" blockedTree).1.value = .ok smallSchema :=
    toOption_eq_some_iff.mp (by decide +kernel)
  obtain ⟨-, -, hgenerate⟩ :=
    respond_reports blockedTree Yaml.Fault.message ["--", "s.yaml"]
  obtain ⟨-, -, hdone⟩ := hgenerate "s.yaml" hrequest
  have hreported := hdone _ (value_runOn_of_ok .standard hload)
  refine ⟨hrequest, by decide +kernel, ?_⟩
  rw [hreported.elsewhere _ (by decide) (by decide)]
  rfl

end MemMap
