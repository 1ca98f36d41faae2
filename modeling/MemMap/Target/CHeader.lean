import MemMap.Target.Profile

/-!
# MemMap.Target.CHeader

C output: a header of packed structs, with the fixed-width names of `<stdint.h>` for the
primitives and every other type as written. The version constant comes last, after the
packing has been undone, so that the schema's own `Version` record is in scope.
-/

namespace MemMap

/-- The fixed-width C name of a primitive. -/
def Primitive.cName : Primitive → String
  | .u8 => "uint8_t"
  | .u16 => "uint16_t"
  | .u32 => "uint32_t"
  | .i8 => "int8_t"
  | .i16 => "int16_t"
  | .i32 => "int32_t"

/-- An upper-case hexadecimal digit. -/
def upperHexDigit (n : Nat) : Char :=
  Char.ofNat (if n < 10 then 48 + n else 55 + n)

/-- A byte as `0x` and two digits. -/
def hexByte (b : UInt8) : String :=
  String.ofList ['0', 'x', upperHexDigit (b.toNat / 16), upperHexDigit (b.toNat % 16)]

/-- The syntax of a C header. -/
def cHeader : Profile where
  language := "C"
  prologue _ := "#pragma once\n\n#include <stdint.h>\n\n#pragma pack(push, 1)\n\n"
  typeName
    | .primitive p => p.cName
    | .named name => name
  openStruct _ := "typedef struct \x7b\n"
  field name type := "    " ++ type ++ " " ++ name ++ ";\n"
  closeStruct name := "\x7d " ++ name ++ ";\n\n"
  epilogue v :=
    "#pragma pack(pop)\n\nconst " ++ MapVersion.typeName ++ " " ++ MapVersion.constName
      ++ " = \x7b" ++ String.intercalate ", " (v.bytes.map hexByte) ++ "\x7d;\n"

end MemMap
