import MemMap.Error
import MemMap.Text.Escaped

/-!
# MemMap.Log

What a run tells about itself while it works, one event after another. An event is kept by
its meaning; its level, message and fields are read off it.
-/

namespace MemMap

open MemMap.Text

/-- How important an event is. -/
inductive LogLevel where
  | debug
  | info
  | warn
  deriving DecidableEq, Repr

/-- The name of a level. -/
def LogLevel.name : LogLevel → String
  | debug => "DEBUG"
  | info => "INFO"
  | warn => "WARN"

/-- The value of an event's field. -/
inductive LogValue where
  | text (s : String)
  | number (n : Nat)
  deriving DecidableEq, Repr

/-- Something that happened. -/
inductive LogEvent where
  /-- A schema file is about to be read. -/
  | loading (path : String)
  /-- A schema file has become a schema of so many records. -/
  | loaded (records : Nat)
  /-- A field's mapping has further keys besides its type. -/
  | extraAttributes (record field : String) (ignored : List String)
  /-- The alignment check of a run begins. -/
  | checking
  /-- A field's size is not known. -/
  | unresolvedField (record field type : String)
  /-- A record has been measured. -/
  | recordSize (record : String) (size : Nat)
  /-- A record's size is no multiple of a word. -/
  | misaligned (record : String) (size : Nat)
  /-- A source is about to be generated. -/
  | rendering (language : String)
  /-- The files of a run are about to be written. -/
  | writing (directory : String)
  /-- A file of so many bytes has been written. -/
  | written (path : String) (bytes : Nat)
  /-- A file could not be written. -/
  | writeFailed (error : Error)

namespace LogEvent

/-- How important the event is. -/
def level : LogEvent → LogLevel
  | .loading _ | .loaded _ | .checking | .rendering _ | .writing _ | .written .. => .info
  | .extraAttributes .. | .unresolvedField .. | .recordSize .. => .debug
  | .misaligned .. | .writeFailed _ => .warn

/-- The message of the event, given an account of the faults of YAML texts. A path is quoted
as names are, so an apostrophe in it stays as it is. -/
def messageWith (yamlText : Yaml.Fault → String) : LogEvent → String
  | .loading path => "Loading schema from: " ++ quoted path
  | .loaded _ => "Schema loaded"
  | .extraAttributes .. => "Ignoring extra field attributes"
  | .checking => "Checking alignment"
  | .unresolvedField .. => "Field size unresolved, not counted"
  | .recordSize .. => "Record size"
  | .misaligned .. => "Record is not 32-bit aligned"
  | .rendering _ => "Rendering structs"
  | .writing directory => "Writing outputs to " ++ quoted directory
  | .written .. => "Wrote output"
  | .writeFailed error => error.messageWith yamlText

/-- A list of names as the log shows it. -/
def namesText (names : List String) : String :=
  "[" ++ String.intercalate ", " (names.map quoted) ++ "]"

/-- The named fields of the event, in order. -/
def fields : LogEvent → List (String × LogValue)
  | .loaded records => [("records", .number records)]
  | .extraAttributes record field ignored =>
    [("record", .text record), ("field", .text field), ("ignored", .text (namesText ignored))]
  | .unresolvedField record field type =>
    [("record", .text record), ("field", .text field), ("ty", .text type)]
  | .recordSize record size => [("record", .text record), ("size", .number size)]
  | .misaligned record size => [("record", .text record), ("size", .number size)]
  | .rendering language => [("language", .text language)]
  | .written path bytes => [("path", .text path), ("bytes", .number bytes)]
  | .loading _ | .checking | .writing _ | .writeFailed _ => []

end LogEvent

end MemMap
