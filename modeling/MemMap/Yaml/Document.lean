import MemMap.Yaml.Node
import MemMap.Yaml.Scan

/-!
# MemMap.Yaml.Document

From tokens to the one document of a text.

Directives come first and settle what tag handles stand for. Then the grammar is read from
the left: a node may have an anchor and a tag, in either order; what it is shows at its
first token. Missing keys and values are empty scalars.
-/

namespace MemMap.Yaml

/-! ## Directives -/

/-- Tag handles and what they stand for. -/
abbrev TagHandles := List (String × List UInt8)

/-- The handles that need no directive; a directive may redefine them. -/
def standardHandles : TagHandles :=
  [("!", asciiOctets ['!']), ("!!", asciiOctets Tag.commonStart.toList)]

/-- The handles that the directives at the front define, and the tokens after them. -/
def directives : (versionSeen : Bool) → TagHandles → List Token →
    Except Fault (TagHandles × List Token)
  | seen, handles, .version major minor :: rest =>
    if seen then .error .repeatedDirective
    else if major = 1 && (minor = 1 || minor = 2) then directives true handles rest
    else .error .unsupportedVersion
  | seen, handles, .tagHandle handle start :: rest =>
    if (List.lookup handle handles).isSome then .error .repeatedDirective
    else directives seen ((handle, start) :: handles) rest
  | _, handles, rest => .ok (handles ++ standardHandles, rest)

/-- The tag of a token, its handle replaced by what it stands for. -/
def resolveTag (handles : TagHandles) (handle : String) (suffix : List UInt8) :
    Except Fault Tag :=
  if handle = "" then .ok (.ofOctets suffix)
  else
    match List.lookup handle handles with
    | some start => .ok (.ofOctets (start ++ suffix))
    | none => .error .unknownTagHandle

/-! ## Reading nodes -/

/-- The tokens that are left, and the numbers of the anchors met. -/
structure Reading where
  tokens : List Token
  /-- Every anchor name with its latest number. -/
  anchors : List (String × Nat)

/-- A step of reading. -/
abbrev Read := StateT Reading (Except Fault)

namespace Read

/-- The next token. -/
def peek : Read (Option Token) := do
  return (← get).tokens.head?

/-- Pass over the next token. -/
def advance : Read Unit :=
  modify fun s => { s with tokens := s.tokens.drop 1 }

/-- Fail. -/
def fail {α : Type} (f : Fault) : Read α :=
  throw f

/-- The number of a new anchor is how many names there were before it. A name that is met
again gets a new number and adds no name. -/
def declare (name : String) : Read Nat := do
  let s ← get
  let number := s.anchors.length
  set { s with anchors := (name, number) :: s.anchors.filter (·.1 ≠ name) }
  return number

/-- The number of the latest anchor of that name. -/
def numberOf (name : String) : Read Nat := do
  match List.lookup name (← get).anchors with
  | some number => return number
  | none => fail .unknownAnchor

/-- The tag that comes next, if one does. -/
def tag? (handles : TagHandles) : Read (Option Tag) := do
  match ← peek with
  | some (.tag handle suffix) =>
    advance
    match resolveTag handles handle suffix with
    | .ok t => return some t
    | .error f => fail f
  | _ => return none

/-- The anchor that comes next, if one does. -/
def anchor? : Read (Option Nat) := do
  match ← peek with
  | some (.anchor name) =>
    advance
    return some (← declare name)
  | _ => return none

/-- An anchor and a tag in either order, each at most once. -/
def properties (handles : TagHandles) : Read (Option Nat × Option Tag) := do
  match ← anchor? with
  | some a => return (some a, ← tag? handles)
  | none =>
    match ← tag? handles with
    | some t => return (← anchor?, some t)
    | none => return (none, none)

/-- The scalar that stands where a node is missing. -/
def missing : Node := .scalar none none "" true

/-- Where a node stands, which settles what forms it may have. -/
inductive Place where
  /-- Inside brackets, where nothing is written as a block. -/
  | flow
  /-- In a block of its own. -/
  | block
  /-- In the block of a key, where a dash may begin a sequence too. -/
  | entry
  deriving DecidableEq, Repr

/-- Whether the next token is one of those, or there is none. -/
def atAny (ts : List Token) : Read Bool := do
  match ← peek with
  | some t => return ts.contains t
  | none => return false

mutual

/-- A node. Where its place does not admit what comes next, an anchor or a tag still stands
for an empty scalar. -/
def node (handles : TagHandles) : (fuel : Nat) → Place → Read Node
  | 0, _ => fail .unexpectedToken
  | fuel + 1, place => do
    match ← peek with
    | some (.reference name) =>
      advance
      return .reference (← numberOf name)
    | _ =>
      let (anchor, tag) ← properties handles
      match ← peek, place with
      | some (.scalar text plain), _ =>
        advance
        return .scalar anchor tag text plain
      | some .flowSequenceStart, _ =>
        advance
        return .sequence anchor tag (← flowItems handles fuel true)
      | some .flowMappingStart, _ =>
        advance
        return .mapping anchor tag (← flowEntries handles fuel true)
      | some .blockSequenceStart, .block | some .blockSequenceStart, .entry =>
        advance
        return .sequence anchor tag (← blockItems handles fuel)
      | some .blockMappingStart, .block | some .blockMappingStart, .entry =>
        advance
        return .mapping anchor tag (← blockEntries handles fuel)
      | some .blockEntry, .entry =>
        return .sequence anchor tag (← indentlessItems handles fuel)
      | _, _ =>
        if anchor.isSome || tag.isSome then return .scalar anchor tag "" true
        else fail .unexpectedToken

/-- A node, unless one of those tokens comes next. -/
def nodeUnless (handles : TagHandles) :
    (fuel : Nat) → (stops : List Token) → Place → Read Node
  | 0, _, _ => fail .unexpectedToken
  | fuel + 1, stops, place => do
    if ← atAny stops then return missing else node handles fuel place

/-- The items of a block sequence, up to its end. -/
def blockItems (handles : TagHandles) : (fuel : Nat) → Read (List Node)
  | 0 => fail .unexpectedToken
  | fuel + 1 => do
    match ← peek with
    | some .blockEntry =>
      advance
      let item ← nodeUnless handles fuel [.blockEntry, .blockEnd] .block
      return item :: (← blockItems handles fuel)
    | some .blockEnd =>
      advance
      return []
    | _ => fail .unexpectedToken

/-- The items of a sequence that lies in the block of its key; whatever is no dash ends it. -/
def indentlessItems (handles : TagHandles) : (fuel : Nat) → Read (List Node)
  | 0 => fail .unexpectedToken
  | fuel + 1 => do
    match ← peek with
    | some .blockEntry =>
      advance
      let item ← nodeUnless handles fuel [.blockEntry, .key, .value, .blockEnd] .block
      return item :: (← indentlessItems handles fuel)
    | _ => return []

/-- The entries of a block mapping, up to its end. -/
def blockEntries (handles : TagHandles) : (fuel : Nat) → Read (List (Node × Node))
  | 0 => fail .unexpectedToken
  | fuel + 1 => do
    match ← peek with
    | some .key =>
      advance
      let key ← nodeUnless handles fuel [.key, .value, .blockEnd] .entry
      let value ← blockValue handles fuel
      return (key, value) :: (← blockEntries handles fuel)
    | some .blockEnd =>
      advance
      return []
    | _ => fail .unexpectedToken

/-- The value behind a key of a block mapping. -/
def blockValue (handles : TagHandles) : (fuel : Nat) → Read Node
  | 0 => fail .unexpectedToken
  | fuel + 1 => do
    match ← peek with
    | some .value =>
      advance
      nodeUnless handles fuel [.key, .value, .blockEnd] .entry
    | _ => return missing

/-- The items of a sequence in brackets, up to its end. A key among them makes a mapping of
one entry. -/
def flowItems (handles : TagHandles) : (fuel : Nat) → (first : Bool) → Read (List Node)
  | 0, _ => fail .unexpectedToken
  | fuel + 1, first => do
    match ← peek with
    | some .flowSequenceEnd =>
      advance
      return []
    | t =>
      if !first then
        if t = some .flowEntry then advance else fail .unexpectedToken
      match ← peek with
      | some .flowSequenceEnd =>
        advance
        return []
      | some .key =>
        advance
        let entry ← flowPair handles fuel
        return .mapping none none [entry] :: (← flowItems handles fuel false)
      | _ =>
        let item ← node handles fuel .flow
        return item :: (← flowItems handles fuel false)

/-- The single entry of a mapping that is an item of a sequence in brackets. Where its key
is missing, the token in the key's place is passed over. -/
def flowPair (handles : TagHandles) : (fuel : Nat) → Read (Node × Node)
  | 0 => fail .unexpectedToken
  | fuel + 1 => do
    let noKey ← atAny [.value, .flowEntry, .flowSequenceEnd]
    let key ← if noKey then do advance; pure missing else node handles fuel .flow
    match ← peek with
    | some .value =>
      advance
      return (key, ← nodeUnless handles fuel [.flowEntry, .flowSequenceEnd] .flow)
    | _ => return (key, missing)

/-- The entries of a mapping in braces, up to its end. An entry without a key token is a key
without a value. -/
def flowEntries (handles : TagHandles) :
    (fuel : Nat) → (first : Bool) → Read (List (Node × Node))
  | 0, _ => fail .unexpectedToken
  | fuel + 1, first => do
    match ← peek with
    | some .flowMappingEnd =>
      advance
      return []
    | t =>
      if !first then
        if t = some .flowEntry then advance else fail .unexpectedToken
      match ← peek with
      | some .flowMappingEnd =>
        advance
        return []
      | some .key =>
        advance
        let key ← nodeUnless handles fuel [.value, .flowEntry, .flowMappingEnd] .flow
        let value ← flowValue handles fuel
        return (key, value) :: (← flowEntries handles fuel false)
      | _ =>
        let key ← node handles fuel .flow
        return (key, missing) :: (← flowEntries handles fuel false)

/-- The value behind a key of a mapping in braces. -/
def flowValue (handles : TagHandles) : (fuel : Nat) → Read Node
  | 0 => fail .unexpectedToken
  | fuel + 1 => do
    match ← peek with
    | some .value =>
      advance
      nodeUnless handles fuel [.flowEntry, .flowMappingEnd] .flow
    | _ => return missing

end

end Read

/-! ## Documents -/

/-- Whether the token ends an empty document or belongs to the next one. -/
def Token.isBoundary : Token → Bool
  | .version .. | .tagHandle .. | .documentStart | .documentEnd => true
  | _ => false

/-- Reading one node never takes more steps than this. -/
def readingFuel (tokens : List Token) : Nat := 4 * tokens.length + 4

/-- The node at the front of `tokens`, which must be all that is left but marks of the end. -/
def onlyNode (handles : TagHandles) (tokens : List Token) : Except Fault Node := do
  let (root, rest) ← (Read.node handles (readingFuel tokens) .block).run ⟨tokens, []⟩
  if rest.tokens.dropWhile (· = .documentEnd) = [] then return root
  else throw .severalDocuments

/-- The root of the only document, `none` if the text holds no document. -/
def rootOfTokens (tokens : List Token) : Except Fault (Option Node) := do
  match tokens with
  | [] => return none
  | t :: _ =>
    if t = .documentStart || (t.isBoundary && t ≠ .documentEnd) then
      let (handles, rest) ← directives false [] tokens
      match rest with
      | .documentStart :: content =>
        match content with
        | [] => return some Read.missing
        | c :: _ =>
          if c.isBoundary then
            if content.dropWhile (· = .documentEnd) = [] then return some Read.missing
            else throw .severalDocuments
          else
            return some (← onlyNode handles content)
      | _ => throw .unexpectedToken
    else
      return some (← onlyNode standardHandles tokens)

/-- The root of the only document of a text, `none` if it holds no document. -/
def rootOfText (text : String) : Except Fault (Option Node) := do
  rootOfTokens (← tokenize text.toList)

end MemMap.Yaml
