/-!
# MemMap.Yaml.Token

The tokens of a YAML text. The block structure, which a text shows by indentation, appears
among them as explicit openings and closings; a key is announced by a token of its own,
also where the text shows it only by the colon behind it.
-/

namespace MemMap.Yaml

/-- A token of a YAML text. Tag texts are octets, because escapes in them may spell any. -/
inductive Token where
  | version (major minor : Nat)
  | tagHandle (handle : String) (start : List UInt8)
  | documentStart
  | documentEnd
  | blockSequenceStart
  | blockMappingStart
  | blockEnd
  | flowSequenceStart
  | flowSequenceEnd
  | flowMappingStart
  | flowMappingEnd
  | blockEntry
  | flowEntry
  | key
  | value
  | reference (name : String)
  | anchor (name : String)
  | tag (handle : String) (suffix : List UInt8)
  | scalar (text : String) (plain : Bool)
  deriving DecidableEq, Repr

end MemMap.Yaml
