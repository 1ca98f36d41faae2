import MemMap.Files.Fault
import MemMap.Yaml.Fault
import MemMap.Yaml.Inspect

/-!
# MemMap.Error

What can go wrong between a schema file and the generated sources, and how it is told.
-/

namespace MemMap

/-! ## Schemas of the wrong form -/

/-- What a name in a document names. -/
inductive NameRole where
  | record
  | field
  deriving DecidableEq, Repr

/-- The word for what a name names. -/
def NameRole.text : NameRole → String
  | record => "record"
  | field => "field"

/-- How a document fails to be a schema. -/
inductive SchemaFault where
  /-- The document holds nothing. -/
  | emptyDocument
  /-- The document is no mapping. -/
  | notRecords
  /-- A record's or a field's name is no string. -/
  | nameNotString (role : NameRole) (key : Yaml.Value)
  /-- A record's body is no mapping. -/
  | notFields (record : String)
  /-- A field's mapping gives it no type. -/
  | missingType (record field : String)
  /-- A field is neither a type nor a mapping. -/
  | notType (record field : String)

/-- The account of a schema fault. -/
def SchemaFault.message : SchemaFault → String
  | .emptyDocument => "schema document is empty"
  | .notRecords => "top level must be a mapping of record names"
  | .nameNotString role key => role.text ++ " name must be a string: " ++ key.inspect
  | .notFields record => "record \x60" ++ record ++ "\x60 must be a mapping of fields"
  | .missingType record field =>
    "field \x60" ++ record ++ "." ++ field ++ "\x60 needs a string \x60type\x60 key"
  | .notType record field =>
    "field \x60" ++ record ++ "." ++ field
      ++ "\x60 must be a type name or a mapping with \x60type\x60"

/-! ## All errors -/

/-- Why a schema could not be loaded or a file not be written. -/
inductive Error where
  | schemaNotFound (path : String)
  | schemaRead (path : String) (cause : Files.Fault)
  | schemaParse (path : String) (cause : Yaml.Fault)
  | yaml (cause : Yaml.Fault)
  | invalidSchema (cause : SchemaFault)
  | write (path : String) (cause : Files.Fault)

namespace Error

/-- The account of an error, given one for the faults of YAML texts. -/
def messageWith (yamlText : Yaml.Fault → String) : Error → String
  | .schemaNotFound path => "File not found: " ++ path
  | .schemaRead path cause => "Failed to read " ++ path ++ ": " ++ cause.message
  | .schemaParse path cause => "Failed to parse " ++ path ++ ": " ++ yamlText cause
  | .yaml cause => "YAML parse error: " ++ yamlText cause
  | .invalidSchema cause => "Invalid schema: " ++ cause.message
  | .write path cause =>
    "An error occurred while writing to " ++ path ++ ": " ++ cause.message

/-- The account of an error. -/
def message : Error → String := messageWith Yaml.Fault.message

end Error

end MemMap
