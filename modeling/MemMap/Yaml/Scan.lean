import MemMap.Yaml.Block
import MemMap.Yaml.Plain
import MemMap.Yaml.Tag

/-!
# MemMap.Yaml.Scan

From characters to tokens.

Two things make this more than a lexer. The indentation of each line opens and closes
blocks, so the columns of all open blocks are kept. And a key without a question mark is
recognised only at the colon behind it: the place where a key may have begun is kept for
each level of brackets, and the key token, with the opening of its mapping, is put in there
afterwards. Such a key must lie on one line within `maxKeyLength` octets.
-/

namespace MemMap.Yaml

/-! ## States -/

/-- A place where a key may have begun. -/
structure PendingKey where
  /-- Whether nothing but a key can stand there. -/
  required : Bool
  /-- How many tokens came before it. -/
  tokenNumber : Nat
  mark : Mark

/-- Keys recognised by their colon are no longer than this in UTF-8. -/
def maxKeyLength : Nat := 1024

/-- A text read up to some place. -/
structure Scan where
  cursor : Cursor
  /-- The tokens so far, latest first, and their number. -/
  tokens : List Token
  count : Nat
  /-- The column of the innermost open block, `-1` outside all. -/
  indent : Int
  /-- The columns of the blocks around it, innermost first. -/
  outerIndents : List Int
  /-- Whether a key may begin here. -/
  keyAllowed : Bool
  /-- The place of a possible key on this level of brackets. -/
  pending : Option PendingKey
  /-- The places on the levels around it, innermost first; one for each open bracket. -/
  outerPending : List (Option PendingKey)

namespace Scan

/-- Before a whole text. -/
def start (cs : List Char) : Scan where
  cursor := .ofText cs
  tokens := []
  count := 0
  indent := -1
  outerIndents := []
  keyAllowed := true
  pending := none
  outerPending := []

/-- Whether the place is inside brackets. -/
def inFlow (s : Scan) : Bool := !s.outerPending.isEmpty

/-- One more token. -/
def emit (s : Scan) (t : Token) : Scan :=
  { s with tokens := t :: s.tokens, count := s.count + 1 }

/-- A token put in behind the first `n`. -/
def insertAt (s : Scan) (n : Nat) (t : Token) : Scan :=
  let late := s.tokens.take (s.count - n)
  { s with tokens := late ++ t :: s.tokens.drop (s.count - n), count := s.count + 1 }

/-- The tokens in the order of the text. -/
def result (s : Scan) : List Token := s.tokens.reverse

/-! ## Blocks -/

/-- Close blocks while they begin to the right of `column`; gives how many are closed, and
what remains open. -/
def closeBlocks (column : Int) : Int → List Int → Nat × Int × List Int
  | indent, [] => (0, indent, [])
  | indent, outer :: rest =>
    if column < indent then
      let (n, remaining) := closeBlocks column outer rest
      (n + 1, remaining)
    else
      (0, indent, outer :: rest)

/-- Outside brackets, close every block that begins to the right of `column`. -/
def dedent (s : Scan) (column : Int) : Scan :=
  if s.inFlow then s
  else
    let (n, indent, outer) := closeBlocks column s.indent s.outerIndents
    { s with
      tokens := List.replicate n .blockEnd ++ s.tokens
      count := s.count + n
      indent := indent
      outerIndents := outer }

/-- Outside brackets, open a block at `column` unless one is open there. The token that
opens it goes behind the first `place` tokens. -/
def openBlock (s : Scan) (column : Nat) (place : Nat) (opening : Token) : Scan :=
  if !s.inFlow && s.indent < column then
    { s.insertAt place opening with
      indent := column
      outerIndents := s.indent :: s.outerIndents }
  else s

/-! ## Keys -/

/-- Give up a possible key of this level. -/
def dropKey (s : Scan) : Except Fault Scan :=
  match s.pending with
  | some k => if k.required then .error .keyWithoutColon else .ok { s with pending := none }
  | none => .ok s

/-- Remember that a key may begin here. -/
def saveKey (s : Scan) : Except Fault Scan :=
  if s.keyAllowed then do
    let s ← s.dropKey
    let here : PendingKey :=
      { required := !s.inFlow && s.indent = s.cursor.column
        tokenNumber := s.count
        mark := s.cursor.mark }
    return { s with pending := some here }
  else
    return s

/-- A possible key, unless its line has ended or it has become too long. -/
def freshKey (here : Mark) : Option PendingKey → Except Fault (Option PendingKey)
  | none => .ok none
  | some k =>
    if k.mark.line < here.line || k.mark.octets + maxKeyLength < here.octets then
      if k.required then .error .keyWithoutColon else .ok none
    else .ok (some k)

/-- Give up the possible keys that can no longer be one, on every level. -/
def dropStaleKeys (s : Scan) : Except Fault Scan := do
  let pending ← freshKey s.cursor.mark s.pending
  let outer ← s.outerPending.mapM (freshKey s.cursor.mark)
  return { s with pending := pending, outerPending := outer }

/-! ## Space between tokens -/

/-- Pass over blanks, comments and line breaks. A tab is passed over only where it cannot be
taken for indentation. Outside brackets a key may begin on a new line. -/
def passSpace (flow : Bool) :
    List Char → Mark → (keyAllowed inComment : Bool) → Cursor × Bool
  | [], m, allowed, _ => (⟨[], m⟩, allowed)
  | '\r' :: '\n' :: r, m, allowed, _ => passSpace flow r m.nextLine (allowed || !flow) false
  | c :: r, m, allowed, comment =>
    if isBreak c then passSpace flow r m.nextLine (allowed || !flow) false
    else if comment then passSpace flow r (m.past c) allowed true
    else if c = ' ' || (c = '\t' && (flow || !allowed))
        || (c = byteOrderMark && m.column = 0) then
      passSpace flow r (m.past c) allowed false
    else if c = '#' then passSpace flow r (m.past c) allowed true
    else (⟨c :: r, m⟩, allowed)

/-- Go to the next token, closing the blocks it lies outside of. -/
def toNextToken (s : Scan) : Except Fault Scan := do
  let (cursor, allowed) :=
    passSpace s.inFlow s.cursor.rest s.cursor.mark s.keyAllowed false
  let s ← { s with cursor := cursor, keyAllowed := allowed }.dropStaleKeys
  return s.dedent cursor.column

/-! ## Tokens -/

/-- Past `n` characters, with a token for them. -/
def take (s : Scan) (n : Nat) (t : Token) : Scan :=
  { s with cursor := s.cursor.skip n }.emit t

/-- A directive or a mark of a document closes all blocks. -/
def closeAll (s : Scan) : Except Fault Scan := do
  let s ← (s.dedent (-1)).dropKey
  return { s with keyAllowed := false }

/-- A directive. -/
def fetchDirective (s : Scan) : Except Fault Scan := do
  let s ← s.closeAll
  let (t, after) ← directive s.cursor
  return { s with cursor := after }.emit t

/-- A mark of a document. -/
def fetchDocumentMark (s : Scan) (t : Token) : Except Fault Scan := do
  let s ← s.closeAll
  return s.take 3 t

/-- An opening bracket; a collection may be a key. -/
def fetchFlowStart (s : Scan) (t : Token) : Except Fault Scan := do
  let s ← s.saveKey
  return { s with
    keyAllowed := true
    pending := none
    outerPending := s.pending :: s.outerPending }.take 1 t

/-- A closing bracket. -/
def fetchFlowEnd (s : Scan) (t : Token) : Except Fault Scan := do
  let s ← s.dropKey
  let s :=
    match s.outerPending with
    | [] => s
    | p :: rest => { s with pending := p, outerPending := rest }
  return { s with keyAllowed := false }.take 1 t

/-- A comma. -/
def fetchFlowEntry (s : Scan) : Except Fault Scan := do
  let s ← s.dropKey
  return { s with keyAllowed := true }.take 1 .flowEntry

/-- Where an indicator opens a block, there must be room for a key. -/
def openBlockHere (s : Scan) (opening : Token) : Except Fault Scan :=
  if s.inFlow then .ok s
  else if s.keyAllowed then .ok (s.openBlock s.cursor.column s.count opening)
  else .error .misplacedIndicator

/-- A dash before an entry. -/
def fetchBlockEntry (s : Scan) : Except Fault Scan := do
  let s ← s.openBlockHere .blockSequenceStart
  let s ← s.dropKey
  return { s with keyAllowed := true }.take 1 .blockEntry

/-- A question mark before a key. -/
def fetchKey (s : Scan) : Except Fault Scan := do
  let s ← s.openBlockHere .blockMappingStart
  let s ← s.dropKey
  return { s with keyAllowed := !s.inFlow }.take 1 .key

/-- A colon before a value. If a key may have begun on this level, it has. -/
def fetchValue (s : Scan) : Except Fault Scan :=
  match s.pending with
  | some k =>
    let s := s.insertAt k.tokenNumber .key
    let s := s.openBlock k.mark.column k.tokenNumber .blockMappingStart
    .ok ({ s with pending := none, keyAllowed := false }.take 1 .value)
  | none => do
    let s ← s.openBlockHere .blockMappingStart
    return { s with keyAllowed := !s.inFlow }.take 1 .value

/-- A token that may be a key, or begin one. -/
def fetchContent (s : Scan) (read : Cursor → Except Fault (Token × Cursor)) :
    Except Fault Scan := do
  let s ← s.saveKey
  let (t, after) ← read s.cursor
  return { s with keyAllowed := false, cursor := after }.emit t

/-- A scalar without quotes. After a line break behind it, a key may begin. -/
def fetchPlain (s : Scan) : Except Fault Scan := do
  let s ← s.saveKey
  let p ← plain ⟨s.inFlow, s.indent + 1⟩ s.cursor
  return { s with keyAllowed := p.brokeLine, cursor := p.after }.emit (.scalar p.text true)

/-- A scalar written as a block; it is never a key. -/
def fetchBlock (s : Scan) (folded : Bool) : Except Fault Scan := do
  let s ← s.dropKey
  let (text, after) ← block folded s.indent s.cursor
  return { s with keyAllowed := true, cursor := after }.emit (.scalar text false)

/-- Read by a scanner of names, as a token. -/
def readName (t : String → Token) (c : Cursor) : Except Fault (Token × Cursor) := do
  let (name, after) ← anchorName c
  return (t name, after)

/-- Read by a scanner of quoted scalars, as a token. -/
def readQuoted (read : Cursor → Except Fault (String × Cursor)) (c : Cursor) :
    Except Fault (Token × Cursor) := do
  let (text, after) ← read c
  return (.scalar text false, after)

/-- The indicators that no plain scalar begins with, whatever follows. -/
def isIndicator (c : Char) : Bool :=
  [',', '[', ']', '\x7b', '\x7d', '#', '&', '*', '!', '|', '>', '\'', '"', '%', '@',
    '\x60'].contains c

/-- Whether a plain scalar begins with `c` before `r`. Some indicators begin one when they
touch what follows. -/
def startsPlain (flow : Bool) (c : Char) (r : List Char) : Bool :=
  if c = '-' then !(r.head?.any isBlank)
  else if c = '?' || c = ':' then !flow && !atWordEnd r
  else !isSpace c && !isIndicator c

/-- The token that begins with `c`, at a place where one begins. -/
def fetch (s : Scan) (c : Char) (r : List Char) : Except Fault Scan :=
  let lineStart := s.cursor.column = 0
  if lineStart && c = '%' then s.fetchDirective
  else if lineStart && atDocumentMark (c :: r) then
    s.fetchDocumentMark (if c = '-' then .documentStart else .documentEnd)
  else if c = '[' then s.fetchFlowStart .flowSequenceStart
  else if c = '\x7b' then s.fetchFlowStart .flowMappingStart
  else if c = ']' then s.fetchFlowEnd .flowSequenceEnd
  else if c = '\x7d' then s.fetchFlowEnd .flowMappingEnd
  else if c = ',' then s.fetchFlowEntry
  else if c = '-' && atWordEnd r then s.fetchBlockEntry
  else if c = '?' && (s.inFlow || atWordEnd r) then s.fetchKey
  else if c = ':' && (s.inFlow || atWordEnd r) then s.fetchValue
  else if c = '*' then s.fetchContent (readName .reference)
  else if c = '&' then s.fetchContent (readName .anchor)
  else if c = '!' then s.fetchContent (tagToken s.inFlow)
  else if c = '|' && !s.inFlow then s.fetchBlock false
  else if c = '>' && !s.inFlow then s.fetchBlock true
  else if c = '\'' then s.fetchContent (readQuoted singleQuoted)
  else if c = '"' then s.fetchContent (readQuoted doubleQuoted)
  else if startsPlain s.inFlow c r then s.fetchPlain
  else .error .unknownToken

/-- The end of the text closes all blocks. -/
def finish (s : Scan) : Except Fault (List Token) := do
  let s ← (s.dedent (-1)).dropKey
  return s.result

/-- Read tokens to the end of the text, at most `fuel` of them. -/
def run : Nat → Scan → Except Fault (List Token)
  | 0, _ => .error .unknownToken
  | fuel + 1, s => do
    let s ← s.toNextToken
    match s.cursor.rest with
    | [] => s.finish
    | c :: r => run fuel (← s.fetch c r)

end Scan

/-- The tokens of a text. Each takes at least one character, so their number is bounded by
the length of the text. -/
def tokenize (cs : List Char) : Except Fault (List Token) :=
  if cs.all isReadable then (Scan.start cs).run (cs.length + 1)
  else .error .forbiddenCharacter

end MemMap.Yaml
