import MemMap.Yaml.Fault
import MemMap.Yaml.Cursor

/-!
# MemMap.Yaml.Block

Scalars written as an indented block. A header tells whether lines are kept (`|`) or folded
(`>`), what becomes of the breaks at the end, and optionally how deep the block is
indented; without that, the first line that is not blank decides. The block ends before
the first line that is indented less.
-/

namespace MemMap.Yaml

/-! ## Headers -/

/-- What becomes of the line breaks at the end of a block. -/
inductive Chomp where
  /-- The first stays. -/
  | clip
  /-- None stays. -/
  | strip
  /-- All stay. -/
  | keep
  deriving DecidableEq, Repr

/-- What a block's header says. -/
structure BlockHeader where
  chomp : Chomp
  /-- Indentation relative to the surrounding block, from one to nine. -/
  increment : Option Nat
  deriving DecidableEq, Repr

/-- The chomping that an indicator asks for. -/
def chompOf? : Char → Option Chomp
  | '-' => some .strip
  | '+' => some .keep
  | _ => none

/-- The value of a decimal digit. -/
def digitValue? (c : Char) : Option Nat :=
  if c.isDigit then some (c.toNat - 48) else none

/-- The indicators of a header in either order, and how many there are. -/
def blockIndicators : List Char → BlockHeader × Nat
  | c :: r =>
    match chompOf? c, digitValue? c with
    | some chomp, _ =>
      match r.head?.bind digitValue? with
      | some n => (⟨chomp, some n⟩, 2)
      | none => (⟨chomp, none⟩, 1)
    | none, some n =>
      match r.head?.bind chompOf? with
      | some chomp => (⟨chomp, some n⟩, 2)
      | none => (⟨.clip, some n⟩, 1)
    | none, none => (⟨.clip, none⟩, 0)
  | [] => (⟨.clip, none⟩, 0)

/-- The header that starts behind the block's first indicator, and the line after it. -/
def blockHeader (c : Cursor) : Except Fault (BlockHeader × Cursor) :=
  let (header, n) := blockIndicators c.rest
  if header.increment = some 0 then .error .malformedBlockHeader
  else
    match (c.skip n).lineRemainder? with
    | some body => .ok (header, body)
    | none => .error .malformedBlockHeader

/-! ## Bodies -/

/-- What a block's lines are read by. -/
structure BlockContext where
  folded : Bool
  chomp : Chomp
  /-- The indentation of the surrounding block. -/
  outer : Int

/-- How far a block has been read. Texts are kept latest character first. -/
structure BlockState where
  /-- The block's indentation, once known. -/
  indent : Option Nat
  /-- The widest of the blank lines while it is not known. -/
  widest : Nat
  /-- Whether the place is inside a line's content. -/
  inLine : Bool
  /-- Whether the last line of content began with a blank. -/
  afterBlank : Bool
  /-- The break that ended the last line of content. -/
  lineBreak : Option Char
  /-- The breaks of the blank lines since. -/
  emptyLines : List Char
  met : List Char

namespace BlockState

/-- Before a block's first line. -/
def start (indent : Option Nat) : BlockState where
  indent := indent
  widest := 0
  inLine := false
  afterBlank := false
  lineBreak := none
  emptyLines := []
  met := []

/-- Whether spaces in that column still belong to the indentation. -/
def inMargin (s : BlockState) (column : Nat) : Bool :=
  match s.indent with
  | none => true
  | some k => column < k

/-- The indentation of the block, if its first line of content begins in that column. -/
def settledIndent (s : BlockState) (outer : Int) (column : Nat) : Nat :=
  match s.indent with
  | some k => k
  | none => max (max s.widest column) (max (outer + 1).toNat 1)

/-- The breaks before a line of content that begins with `c`, joined to the text. -/
def join (s : BlockState) (folded : Bool) (c : Char) : List Char :=
  if folded && s.lineBreak = some '\n' && !s.afterBlank && !isBlank c then
    if s.emptyLines.isEmpty then ' ' :: s.met else s.emptyLines ++ s.met
  else
    s.emptyLines ++ (s.lineBreak.toList ++ s.met)

/-- The text of the finished block. -/
def text (s : BlockState) (chomp : Chomp) : String :=
  let tail :=
    match chomp with
    | .strip => []
    | .clip => s.lineBreak.toList
    | .keep => s.emptyLines ++ s.lineBreak.toList
  String.ofList (tail ++ s.met).reverse

/-- A line break was met. -/
def breakLine (s : BlockState) (column : Nat) (c : Char) : BlockState :=
  if s.inLine then
    { s with inLine := false, lineBreak := some c }
  else
    { s with
      widest := if s.indent.isNone then max s.widest column else s.widest
      emptyLines := c :: s.emptyLines }

end BlockState

/-- Read on through the lines of a block. -/
def blockFrom (ctx : BlockContext) :
    List Char → Mark → BlockState → Except Fault (String × Cursor)
  | [], m, s => .ok (s.text ctx.chomp, ⟨[], m⟩)
  | '\r' :: '\n' :: r, m, s => blockFrom ctx r m.nextLine (s.breakLine m.column '\n')
  | c :: r, m, s =>
    if isBreak c then
      blockFrom ctx r m.nextLine (s.breakLine m.column (normalBreak c))
    else if s.inLine then
      blockFrom ctx r (m.past c) { s with met := c :: s.met }
    else if s.inMargin m.column && c = ' ' then
      blockFrom ctx r (m.past c) s
    else if s.inMargin m.column && c = '\t' then
      .error .tabInIndentation
    else
      let indent := s.settledIndent ctx.outer m.column
      if m.column = indent then
        blockFrom ctx r (m.past c)
          { indent := some indent
            widest := s.widest
            inLine := true
            afterBlank := isBlank c
            lineBreak := none
            emptyLines := []
            met := c :: s.join ctx.folded c }
      else
        .ok (s.text ctx.chomp, ⟨c :: r, m⟩)

/-- The block scalar whose first indicator comes next; `outer` is the indentation of the
block around it. -/
def block (folded : Bool) (outer : Int) (c : Cursor) : Except Fault (String × Cursor) := do
  let (header, body) ← blockHeader (c.skip 1)
  let indent := header.increment.map fun n => (max outer 0).toNat + n
  blockFrom ⟨folded, header.chomp, outer⟩ body.rest body.mark (.start indent)

end MemMap.Yaml
