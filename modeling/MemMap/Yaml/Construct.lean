import MemMap.Yaml.Document
import MemMap.Yaml.Resolve

/-!
# MemMap.Yaml.Construct

From the nodes of a document to its value. References are replaced by what they mean, tags
of the application's own are kept, and scalars are resolved.

Three limits guard against documents that are larger than they look: collections nest at
most `maxDepth` deep, also through references; at most `referencesPerMark` references are
followed for each unit of the document's weight; and no mapping may repeat a key.
-/

namespace MemMap.Yaml

/-- How deep collections may nest. -/
def maxDepth : Nat := 128

/-- How many references may be followed for each unit of the document's weight. -/
def referencesPerMark : Nat := 100

/-- A step of construction. The state counts the references that may still be followed. -/
abbrev Construct := StateT Nat (Except Fault)

namespace Construct

/-- The node that `n` means; `anchored` are the anchored nodes, the last first. -/
def dereference (anchored : List (Nat × Node)) (n : Node) : Construct Node := do
  match n with
  | .reference anchor =>
    match ← get with
    | 0 => throw .tooManyAliases
    | left + 1 =>
      set left
      match List.lookup anchor anchored with
      | some target => return target
      | none => throw .unknownAnchor
  | n => return n

/-- A value under the tag of its node, if that is one of the application's own. -/
def underTag (tag : Option Tag) (v : Value) : Value :=
  match tag with
  | some (.own name) => .tagged name v
  | _ => v

/-- Whether a key is there already. -/
def hasKey (entries : List (Value × Value)) (key : Value) : Bool :=
  entries.any fun e => key.same e.1

/-- The values of the items of a sequence. -/
def ofItems (deeper : Node → Construct Value) : List Node → Construct (List Value)
  | [] => return []
  | n :: rest => do
    let v ← deeper n
    return v :: (← ofItems deeper rest)

/-- The entries of a mapping; `met` are those before, the last first. -/
def ofEntries (deeper : Node → Construct Value) :
    List (Node × Node) → List (Value × Value) → Construct (List (Value × Value))
  | [], met => return met.reverse
  | (k, v) :: rest, met => do
    let key ← deeper k
    if hasKey met key then
      throw .repeatedKey
    let value ← deeper v
    ofEntries deeper rest ((key, value) :: met)

/-- The value of a node that is no reference. What lies inside a collection is read by
`deeper`, if collections may nest any deeper. -/
def ofContent (deeper : Option (Node → Construct Value)) : Node → Construct Value
  | .reference _ => throw .unknownAnchor
  | .scalar _ tag text plain =>
    match scalarValue tag text plain with
    | .ok v => return underTag tag v
    | .error f => throw f
  | .sequence _ tag items =>
    match deeper with
    | some read => do return underTag tag (.sequence (← ofItems read items))
    | none => throw .nestingTooDeep
  | .mapping _ tag entries =>
    match deeper with
    | some read => do return underTag tag (.mapping (← ofEntries read entries []))
    | none => throw .nestingTooDeep

/-- The value of a node in which collections nest at most `depth` deep. -/
def ofNode (anchored : List (Nat × Node)) : (depth : Nat) → Node → Construct Value
  | 0, n => do ofContent none (← dereference anchored n)
  | depth + 1, n => do ofContent (some (ofNode anchored depth)) (← dereference anchored n)

end Construct

namespace Value

/-- The value of a document of root `root`. -/
def ofRoot (root : Node) : Except Fault Value :=
  (Construct.ofNode root.anchored.reverse maxDepth root).run' (referencesPerMark * root.weight)

/-- The value of the only document of a text; a text without a document is null. -/
def ofText (text : String) : Except Fault Value := do
  match ← rootOfText text with
  | some root => ofRoot root
  | none => return .null

end Value

end MemMap.Yaml
