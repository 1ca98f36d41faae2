import MemMap.Yaml.Fault

/-!
# MemMap.Yaml.Node

The structure of a YAML document before any scalar is interpreted: scalars, sequences and
mappings with their tags and anchors, and references to anchored nodes.

An anchor is kept by its number. Numbers need not be unique; a reference means the anchored
node of that number that begins last in the document (`Node.target?`), which may be one that
begins after the reference.
-/

namespace MemMap.Yaml

/-! ## Tags -/

/-- What a tag asks of its node. -/
inductive Tag where
  /-- A tag of the application's own, without the mark it begins with. -/
  | own (name : String)
  /-- A tag of the application's own whose text is no UTF-8. -/
  | unreadable
  | bool
  | int
  | float
  | null
  /-- A tag that asks for nothing. -/
  | other
  deriving DecidableEq, Repr

namespace Tag

/-- What tags of the common schema begin with. -/
def commonStart : String := "tag:yaml.org,2002:"

/-- A tag name without the mark it begins with, unless it is nothing but that mark. -/
def bareName (name : String) : String :=
  match name.toList with
  | '!' :: c :: r => String.ofList (c :: r)
  | _ => name

/-- The tag of that spelling. -/
def ofText (text : String) : Tag :=
  if text.toList.head? = some '!' then .own (bareName text)
  else if text = commonStart ++ "bool" then .bool
  else if text = commonStart ++ "int" then .int
  else if text = commonStart ++ "float" then .float
  else if text = commonStart ++ "null" then .null
  else .other

/-- The tag of those octets. -/
def ofOctets (octets : List UInt8) : Tag :=
  match String.fromUTF8? ⟨octets.toArray⟩ with
  | some text => ofText text
  | none => if octets.head? = some 0x21 then .unreadable else .other

end Tag

/-! ## Nodes -/

/-- A node of a document. -/
inductive Node where
  | reference (anchor : Nat)
  | scalar (anchor : Option Nat) (tag : Option Tag) (text : String) (plain : Bool)
  | sequence (anchor : Option Nat) (tag : Option Tag) (items : List Node)
  | mapping (anchor : Option Nat) (tag : Option Tag) (entries : List (Node × Node))
  deriving Repr

namespace Node

/-- The number of the node's anchor. -/
def anchor? : Node → Option Nat
  | .reference _ => none
  | .scalar a .. => a
  | .sequence a .. => a
  | .mapping a .. => a

/-- The node with its number, if it has an anchor. -/
def anchoring (n : Node) : List (Nat × Node) :=
  n.anchor?.toList.map fun a => (a, n)

mutual

/-- Every anchored node, in the order in which they begin. -/
def anchored : Node → List (Nat × Node)
  | .reference _ => []
  | .scalar a t s p => (Node.scalar a t s p).anchoring
  | .sequence a t items => (Node.sequence a t items).anchoring ++ anchoredItems items
  | .mapping a t entries => (Node.mapping a t entries).anchoring ++ anchoredEntries entries

/-- Every anchored node among the items of a sequence. -/
def anchoredItems : List Node → List (Nat × Node)
  | [] => []
  | n :: rest => n.anchored ++ anchoredItems rest

/-- Every anchored node among the entries of a mapping. -/
def anchoredEntries : List (Node × Node) → List (Nat × Node)
  | [] => []
  | (k, v) :: rest => k.anchored ++ v.anchored ++ anchoredEntries rest

end

mutual

/-- How many marks the document's structure takes: one for a scalar or a reference, two
around a collection. -/
def weight : Node → Nat
  | .reference _ => 1
  | .scalar .. => 1
  | .sequence _ _ items => 2 + weightItems items
  | .mapping _ _ entries => 2 + weightEntries entries

/-- The weight of the items of a sequence. -/
def weightItems : List Node → Nat
  | [] => 0
  | n :: rest => n.weight + weightItems rest

/-- The weight of the entries of a mapping. -/
def weightEntries : List (Node × Node) → Nat
  | [] => 0
  | (k, v) :: rest => k.weight + v.weight + weightEntries rest

end

/-- What a reference to that number means in the document of root `root`. -/
def target? (root : Node) (anchor : Nat) : Option Node :=
  List.lookup anchor root.anchored.reverse

end Node

end MemMap.Yaml
