import MemMap.Config
import MemMap.Target.RustModule
import MemMap.Target.CHeader

/-!
# MemMap.Target

The two targets of a run and the files generated for them.
-/

namespace MemMap

/-- A kind of generated file. -/
inductive Target where
  | rust
  | c
  deriving DecidableEq, Repr

namespace Target

/-- The targets in the order in which they are generated and written. -/
def all : List Target := [rust, c]

/-- The syntax of the target. -/
def profile : Target → Profile
  | rust => rustModule
  | c => cHeader

/-- The name of the target's file. -/
def fileName (config : Config) : Target → String
  | rust => config.rustFileName
  | c => config.cFileName

end Target

/-- The text generated for one target. -/
structure GeneratedFile where
  target : Target
  source : String
  deriving DecidableEq, Repr

/-- The text of a schema for one target. -/
def generateFor (schema : Schema) (target : Target) : GeneratedFile :=
  ⟨target, target.profile.render schema⟩

/-- The texts of a schema for all targets. -/
def generate (schema : Schema) : List GeneratedFile :=
  Target.all.map (generateFor schema)

end MemMap
