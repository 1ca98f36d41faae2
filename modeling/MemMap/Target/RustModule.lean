import MemMap.Target.Profile

/-!
# MemMap.Target.RustModule

Rust output: one packed struct with C layout for each record. A schema spells its
primitives as Rust does, so every type is emitted as written.
-/

namespace MemMap

/-- The version constant as a struct literal. -/
def rustVersionConst (v : MapVersion) : String :=
  "pub const " ++ MapVersion.constName ++ ": " ++ MapVersion.typeName ++ " = "
    ++ MapVersion.typeName ++ " \x7bmajor: " ++ toString v.major.toNat
    ++ ", minor: " ++ toString v.minor.toNat ++ ", spin: " ++ toString v.spin.toNat
    ++ ", res0: " ++ toString v.res0.toNat ++ "\x7d;\n\n"

/-- The syntax of a Rust module. -/
def rustModule : Profile where
  language := "Rust"
  prologue v :=
    "//! EC Internal Data Structures\n\n" ++ "#[allow(missing_docs)]\n" ++ rustVersionConst v
  typeName t := t.text
  openStruct name :=
    "#[allow(missing_docs)]\n#[repr(C, packed)]\n#[derive(Clone, Copy, Debug, Default)]\n"
      ++ "pub struct " ++ name ++ " \x7b\n"
  field name type := "    pub " ++ name ++ ": " ++ type ++ ",\n"
  closeStruct _ := "\x7d\n\n"
  epilogue _ := ""

end MemMap
