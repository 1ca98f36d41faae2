import MemMap.Alignment

/-!
# MemMap.Config

Where generated sources go and how records are measured. A configuration is built from
settings that are applied in order to the standard one, so the last setting of a kind
wins and what is not set keeps its standard value.
-/

namespace MemMap

/-- Everything a run can be told besides its schema. -/
structure Config where
  /-- Directory that receives the generated files. -/
  outputDir : String
  rustFileName : String
  cFileName : String
  /-- Policy of the alignment check. -/
  nestedSizing : NestedSizing
  deriving DecidableEq, Repr

namespace Config

/-- File name of the Rust module unless set. -/
def standardRustFileName : String := "structure.rs"

/-- File name of the C header unless set. -/
def standardCFileName : String := "ecmemory.h"

/-- The configuration of the command line: both files in the current directory. -/
def standard : Config where
  outputDir := "."
  rustFileName := standardRustFileName
  cFileName := standardCFileName
  nestedSizing := .standard

/-- One deviation from the standard configuration. -/
inductive Setting where
  | outputDir (dir : String)
  | rustFileName (name : String)
  | cFileName (name : String)
  | nestedSizing (policy : NestedSizing)
  deriving DecidableEq, Repr

/-- The configuration with one setting changed. -/
def set (c : Config) : Setting → Config
  | .outputDir dir => { c with outputDir := dir }
  | .rustFileName name => { c with rustFileName := name }
  | .cFileName name => { c with cFileName := name }
  | .nestedSizing policy => { c with nestedSizing := policy }

/-- The standard configuration with the settings applied in order. -/
def ofSettings (settings : List Setting) : Config :=
  settings.foldl set standard

end Config

end MemMap
