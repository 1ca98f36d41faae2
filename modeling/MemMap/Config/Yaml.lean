import MemMap.Config.Json
import MemMap.Yaml.Document
import MemMap.Yaml.Written

/-!
# MemMap.Config.Yaml

Configurations as YAML texts: a mapping with one entry for each field.

Reading takes scalars at their word: where a string is asked for, any scalar will do,
whatever it would stand for elsewhere. Entries under other keys are passed over without
being understood; a field that is given twice or not at all is a fault. Writing gives one
entry for each field, quoting what would be read as something else than a string.
-/

namespace MemMap.Config

open MemMap.Yaml

/-! ## Reading -/

/-- The text of a scalar, or of one that is referred to. -/
def scalarText (root : Node) (n : Node) : Except Fault String :=
  match n with
  | .scalar _ _ text _ => .ok text
  | .reference anchor =>
    match root.target? anchor with
    | some (.scalar _ _ text _) => .ok text
    | _ => .error .unexpectedForm
  | _ => .error .unexpectedForm

/-- Whether a scalar's content is nothing, as it must be under a tag that names a policy. -/
def isNothing (text : String) (plain : Bool) : Bool :=
  plain && (text = "" || isNullWord text)

/-- A policy: its name as a scalar, or as a tag with nothing under it. -/
def policyOfContent : Node → Except Fault NestedSizing
  | .scalar _ (some (.own name)) text plain =>
    match NestedSizing.ofName? name with
    | some p => if isNothing text plain then .ok p else .error .unexpectedForm
    | none => .error .unexpectedForm
  | .scalar _ _ text _ =>
    match NestedSizing.ofName? text with
    | some p => .ok p
    | none => .error .unexpectedForm
  | _ => .error .unexpectedForm

/-- A policy, given directly or by a reference. -/
def policyOfNode (root : Node) (n : Node) : Except Fault NestedSizing :=
  match n with
  | .reference anchor =>
    match root.target? anchor with
    | some target => policyOfContent target
    | none => .error .unknownAnchor
  | n => policyOfContent n

/-- The fields met so far. -/
structure Draft where
  outputDir : Option String
  rustFileName : Option String
  cFileName : Option String
  nestedSizing : Option NestedSizing

/-- A field for the first time. -/
def once {α : Type} (present : Option α) (read : Except Fault α) : Except Fault (Option α) :=
  match present with
  | some _ => .error .repeatedKey
  | none => do return some (← read)

/-- The fields of a configuration with one more entry. -/
def addEntry (root : Node) (d : Draft) (key : String) (value : Node) :
    Except Fault Draft := do
  if key = Key.outputDir.name then
    return { d with outputDir := ← once d.outputDir (scalarText root value) }
  else if key = Key.rustFileName.name then
    return { d with rustFileName := ← once d.rustFileName (scalarText root value) }
  else if key = Key.cFileName.name then
    return { d with cFileName := ← once d.cFileName (scalarText root value) }
  else if key = Key.nestedSizing.name then
    return { d with nestedSizing := ← once d.nestedSizing (policyOfNode root value) }
  else
    return d

/-- The fields in some entries of a mapping. -/
def addEntries (root : Node) : Draft → List (Node × Node) → Except Fault Draft
  | d, [] => .ok d
  | d, (key, value) :: rest => do
    let key ← scalarText root key
    let d ← addEntry root d key value
    addEntries root d rest

/-- The configuration of these fields, if none is missing. -/
def Draft.complete (d : Draft) : Except Fault Config :=
  match d with
  | ⟨some outputDir, some rustFileName, some cFileName, some nestedSizing⟩ =>
    .ok ⟨outputDir, rustFileName, cFileName, nestedSizing⟩
  | _ => .error .unexpectedForm

/-- The configuration in a document of root `root`. -/
def ofRoot (root : Node) : Except Fault Config :=
  match root with
  | .mapping _ _ entries => do
    let d ← addEntries root ⟨none, none, none, none⟩ entries
    d.complete
  | _ => .error .unexpectedForm

/-- The configuration in a YAML text. -/
def ofYaml (text : String) : Except Fault Config := do
  match ← rootOfText text with
  | some root => ofRoot root
  | none => throw .unexpectedForm

/-! ## Writing -/

/-- The entry of a field. -/
def entryText (key : Key) (value : String) : String :=
  key.name ++ ":" ++ writtenScalar value

/-- A configuration as a YAML text. -/
def toYaml (c : Config) : String :=
  entryText .outputDir c.outputDir ++ entryText .rustFileName c.rustFileName
    ++ entryText .cFileName c.cFileName ++ entryText .nestedSizing c.nestedSizing.name

end MemMap.Config
