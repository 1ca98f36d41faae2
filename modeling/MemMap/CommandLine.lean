import MemMap.Generator

/-!
# MemMap.CommandLine

The command line: one schema file, generated with the standard configuration.

Arguments are read from the left. `--help` and `--version` act as soon as they are met; the
first argument that makes no sense is a usage error. After `--` every argument is a path.
A run's warnings and successes go to the output, its errors to the error output.
-/

namespace MemMap

open Files

/-! ## Arguments -/

/-- What a command line asks for. -/
inductive Request where
  | generate (path : String)
  | help
  | version
  | usageError
  deriving DecidableEq, Repr

namespace Request

/-- What an option asks for; a cluster of letters acts by its first. -/
def ofOption (argument : String) : Request :=
  match argument.toList with
  | '-' :: '-' :: _ =>
    if argument = "--help" then .help
    else if argument = "--version" then .version
    else .usageError
  | '-' :: 'h' :: _ => .help
  | '-' :: 'V' :: _ => .version
  | _ => .usageError

/-- Whether an argument is an option: a dash and something behind it. -/
def isOption (argument : String) : Bool :=
  argument.toList.head? = some '-' && argument ≠ "-"

/-- Read arguments from the left; `path` is the path met, and after `--` there are no more
options. -/
def ofArgumentsFrom (path : Option String) (optionsOver : Bool) : List String → Request
  | [] =>
    match path with
    | some p => .generate p
    | none => .usageError
  | a :: rest =>
    if !optionsOver && a = "--" then ofArgumentsFrom path true rest
    else if !optionsOver && isOption a then ofOption a
    else if a = "" || path.isSome then .usageError
    else ofArgumentsFrom (some a) optionsOver rest

/-- What a list of arguments asks for. -/
def ofArguments (arguments : List String) : Request :=
  ofArgumentsFrom none false arguments

end Request

/-! ## Responses -/

/-- The program's name as it is called. -/
def programName : String := "ec-memory-gen"

/-- The version of the program. -/
def programVersion : String := "0.1.0"

/-- How the program is called. -/
def usageLine : String := "Usage: " ++ programName ++ " <SCHEMA>\n"

/-- The answer to `--help`. -/
def helpText : String :=
  "Generate packed Rust and C structs from an EC memory map schema\n\n"
    ++ usageLine
    ++ "\nArguments:\n  <SCHEMA>  YAML schema describing the memory map records\n"
    ++ "\nOptions:\n  -h, --help     Print help\n  -V, --version  Print version\n"

/-- The answer to `--version`. -/
def versionText : String := programName ++ " " ++ programVersion ++ "\n"

/-- What a program leaves behind besides files. -/
structure Response where
  status : UInt32
  /-- The text for the output. -/
  output : String
  /-- The text for the error output. -/
  errors : String
  deriving DecidableEq, Repr

/-- The line for an error. -/
def errorLine (yamlText : Yaml.Fault → String) (e : Error) : String :=
  "[ERROR] " ++ e.messageWith yamlText ++ "\n"

/-- The line for a warning. -/
def warningLine (w : Warning) : String := w.text ++ "\n"

/-- The line for a file that was written. -/
def writtenLine (o : WriteOutcome) : String :=
  "[OK] " ++ o.target.profile.language ++ " code has been written to " ++ o.path ++ "\n"

/-- The output line of an attempt to write a file, nothing if it failed. -/
def WriteOutcome.outputLine (o : WriteOutcome) : String :=
  match o.error? with
  | none => writtenLine o
  | some _ => ""

/-- The error line of an attempt to write a file, nothing if it succeeded. -/
def WriteOutcome.errorLine (yamlText : Yaml.Fault → String) (o : WriteOutcome) : String :=
  match o.error? with
  | none => ""
  | some e => MemMap.errorLine yamlText e

namespace Response

/-- The response to arguments that make no sense. -/
def usageError : Response :=
  ⟨2, "", "error: invalid arguments\n\n" ++ usageLine⟩

/-- The response after a run. -/
def ofRun (yamlText : Yaml.Fault → String) : Except Error RunReport → Response
  | .error e => ⟨1, "", errorLine yamlText e⟩
  | .ok report =>
    { status := if report.allWritten then 0 else 1
      output := String.join (report.alignment.warnings.map warningLine)
        ++ String.join (report.writes.map WriteOutcome.outputLine)
      errors := String.join (report.writes.map (WriteOutcome.errorLine yamlText)) }

end Response

/-- Do what the arguments ask for, given an account of the faults of YAML texts. -/
def respond {m : Type → Type} [Monad m] (access : Access m) (yamlText : Yaml.Fault → String)
    (arguments : List String) : m Response := do
  match Request.ofArguments arguments with
  | .usageError => return .usageError
  | .help => return ⟨0, helpText, ""⟩
  | .version => return ⟨0, versionText, ""⟩
  | .generate path =>
    let outcome ← run access .standard path
    return .ofRun yamlText outcome.value

end MemMap
