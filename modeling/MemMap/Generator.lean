import MemMap.Files.Tree
import MemMap.Loader
import MemMap.Target

/-!
# MemMap.Generator

A run: load a schema file, check its alignment, generate both sources and write them.

Nothing is written unless the schema loads, and nothing after that makes a run fail: each
file is attempted by itself and its outcome reported. The same run works on any `Access` to
files; on `Tree.access` it is a function of the file tree (`runOn`).
-/

namespace MemMap

open Files

/-! ## Events of the single steps -/

/-- What the check tells about one record. -/
def Measured.events (m : Measured) : List LogEvent :=
  m.unresolved.map (fun f => .unresolvedField m.name f.name f.type.text)
    ++ [.recordSize m.name m.size]

/-- What a check tells: each record as it is measured, then the warnings. -/
def Report.events (report : Report) : List LogEvent :=
  report.measured.flatMap Measured.events
    ++ report.warnings.map fun w => .misaligned w.record w.size

/-- What the generation of all sources tells. -/
def generationEvents : List LogEvent :=
  Target.all.map fun t => .rendering t.profile.language

/-! ## Loading -/

/-- Something that was done, with its events. -/
structure Logged (α : Type) where
  events : List LogEvent
  value : α

/-- An error of reading a schema file at `path`. -/
def readError (path : String) : Fault → Error
  | .notFound => .schemaNotFound path
  | cause => .schemaRead path cause

/-- The same error, told of the file at `path` it comes from. -/
def Error.inFile (path : String) : Error → Error
  | .yaml cause => .schemaParse path cause
  | e => e

/-- The events of a schema that was loaded. -/
def loadedEvents : Except Error Schema → List LogEvent
  | .ok schema => [.loaded schema.size]
  | .error _ => []

/-- The schema in a file at `path` of that content. -/
def schemaOfContent (path : String) (content : ByteArray) : Logged (Except Error Schema) :=
  match String.fromUTF8? content with
  | none => ⟨[], .error (.schemaRead path .notText)⟩
  | some text =>
    let (notes, result) := Schema.walkText text
    let result := result.mapError (·.inFile path)
    ⟨notes ++ loadedEvents result, result⟩

/-- The schema in a file, given what came of reading it. -/
def schemaOfRead (path : String) : Except Fault ByteArray → Logged (Except Error Schema)
  | .ok content =>
    let l := schemaOfContent path content
    ⟨.loading path :: l.events, l.value⟩
  | .error cause => ⟨[.loading path], .error (readError path cause)⟩

section

variable {m : Type → Type} [Monad m]

/-- Load the schema in a file. -/
def load (access : Access m) (path : String) : m (Logged (Except Error Schema)) := do
  return schemaOfRead path (← access.read path)

/-! ## Writing -/

/-- What came of writing one file. -/
structure WriteOutcome where
  target : Target
  path : String
  /-- The length of the text in bytes. -/
  bytes : Nat
  failure : Option Fault

namespace WriteOutcome

/-- Whether the file was written. -/
def isOk (o : WriteOutcome) : Bool := o.failure.isNone

/-- The error, if the file was not written. -/
def error? (o : WriteOutcome) : Option Error :=
  o.failure.map (.write o.path)

/-- What the attempt tells. -/
def event (o : WriteOutcome) : LogEvent :=
  match o.error? with
  | none => .written o.path o.bytes
  | some e => .writeFailed e

end WriteOutcome

/-- Where the file of a target goes. -/
def outputPath (config : Config) (target : Target) : String :=
  joinPath config.outputDir (target.fileName config)

/-- Write one file. -/
def writeOutput (access : Access m) (config : Config) (file : GeneratedFile) :
    m WriteOutcome := do
  let path := outputPath config file.target
  let content := file.source.toUTF8
  let failure :=
    match ← access.write path content with
    | .ok () => none
    | .error f => some f
  return ⟨file.target, path, content.size, failure⟩

/-- Write some files one after another, whatever comes of each. -/
def writeOutputs (access : Access m) (config : Config) :
    List GeneratedFile → m (List WriteOutcome)
  | [] => return []
  | file :: rest => do
    let outcome ← writeOutput access config file
    let outcomes ← writeOutputs access config rest
    return outcome :: outcomes

/-! ## Runs -/

/-- What a run that could load its schema has done. -/
structure RunReport where
  alignment : Report
  writes : List WriteOutcome

/-- Whether every file was written. -/
def RunReport.allWritten (r : RunReport) : Bool :=
  r.writes.all WriteOutcome.isOk

/-- Load the schema at `path`, check it, and write both sources. -/
def run (access : Access m) (config : Config) (path : String) :
    m (Logged (Except Error RunReport)) := do
  let loaded ← load access path
  match loaded.value with
  | .error e => return ⟨loaded.events, .error e⟩
  | .ok schema =>
    let alignment := checkAlignment config.nestedSizing schema
    let writes ← writeOutputs access config (generate schema)
    return ⟨loaded.events ++ .checking :: alignment.events ++ generationEvents
        ++ .writing config.outputDir :: writes.map WriteOutcome.event,
      .ok ⟨alignment, writes⟩⟩

end

/-- A run on a file tree, with the tree after it. -/
def runOn (tree : Tree) (config : Config) (path : String) :
    Logged (Except Error RunReport) × Tree :=
  run Tree.access config path tree

end MemMap
