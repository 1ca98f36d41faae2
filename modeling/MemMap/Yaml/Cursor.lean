/-!
# MemMap.Yaml.Cursor

A place in a YAML text: what is left of it and where that begins. Columns decide the block
structure and octets the length of a key, so every character read moves the place, and a
line break returns it to the start of the next line.
-/

namespace MemMap.Yaml

/-! ## Classes of characters -/

/-- A character that ends a line. -/
def isBreak (c : Char) : Bool :=
  c = '\n' || c = '\r' || c = '\x85' || c = '\u2028' || c = '\u2029'

/-- A space or a tab. -/
def isBlank (c : Char) : Bool :=
  c = ' ' || c = '\t'

/-- A character that separates words: a blank or a line break. -/
def isSpace (c : Char) : Bool :=
  isBlank c || isBreak c

/-- A character of an anchor, a directive or a tag handle. -/
def isNameChar (c : Char) : Bool :=
  c.isAlphanum || c = '_' || c = '-'

/-- A character that may stand in a YAML text at all. -/
def isReadable (c : Char) : Bool :=
  let n := c.toNat
  n = 0x09 || n = 0x0a || n = 0x0d || (0x20 ≤ n && n ≤ 0x7e) || n = 0x85
    || (0xa0 ≤ n && n ≤ 0xfffd) || 0x10000 ≤ n

/-- The byte order mark. -/
def byteOrderMark : Char := '\ufeff'

/-- The break a line ends with, as it appears in a scalar: the two Unicode separators stay
what they are, every other break is a line feed. -/
def normalBreak (c : Char) : Char :=
  if c = '\u2028' || c = '\u2029' then c else '\n'

/-- Whether a word ends before `cs`: nothing is left, or a blank or a break follows. -/
def atWordEnd : List Char → Bool
  | [] => true
  | c :: _ => isSpace c

/-- Whether a line ends before `cs`. -/
def atLineEnd : List Char → Bool
  | [] => true
  | c :: _ => isBreak c

/-- Whether `cs` begins with a mark of the start or the end of a document. -/
def atDocumentMark : List Char → Bool
  | '-' :: '-' :: '-' :: r => atWordEnd r
  | '.' :: '.' :: '.' :: r => atWordEnd r
  | _ => false

/-! ## Places -/

/-- How far into the text a place is: how many lines are above it, and how many characters
are before it on its line, which make so many octets of UTF-8. -/
structure Mark where
  line : Nat
  column : Nat
  octets : Nat
  deriving DecidableEq, Repr

namespace Mark

/-- The beginning of a text. -/
def start : Mark := ⟨0, 0, 0⟩

/-- The place behind `c`, which is no break. -/
def past (m : Mark) (c : Char) : Mark :=
  { m with column := m.column + 1, octets := m.octets + c.utf8Size }

/-- The beginning of the next line. -/
def nextLine (m : Mark) : Mark :=
  ⟨m.line + 1, 0, 0⟩

end Mark

/-- The rest of a text and where it begins. -/
structure Cursor where
  rest : List Char
  mark : Mark
  deriving Repr

namespace Cursor

/-- The place before a whole text. -/
def ofText (cs : List Char) : Cursor := ⟨cs, .start⟩

/-- The column of the next character. -/
def column (c : Cursor) : Nat := c.mark.column

/-- Past the next `n` characters, none of which is a break. -/
def skip (c : Cursor) (n : Nat) : Cursor :=
  ⟨c.rest.drop n, (c.rest.take n).foldl Mark.past c.mark⟩

/-- The longest run of characters with property `p`, none of them a break, and the place
after it. -/
def takeWhile (c : Cursor) (p : Char → Bool) : List Char × Cursor :=
  let run := c.rest.takeWhile p
  (run, c.skip run.length)

/-- Past the run of characters with property `p`. -/
def skipWhile (c : Cursor) (p : Char → Bool) : Cursor :=
  (c.takeWhile p).2

/-- Past the line break that comes next, if there is one. A carriage return and a line feed
in a row are one break. -/
def skipBreak (c : Cursor) : Cursor :=
  match c.rest with
  | '\r' :: '\n' :: r => ⟨r, c.mark.nextLine⟩
  | b :: r => if isBreak b then ⟨r, c.mark.nextLine⟩ else c
  | [] => c

/-- Past the rest of the line, its break excluded. -/
def skipLine (c : Cursor) : Cursor :=
  c.skipWhile fun ch => !isBreak ch

/-- Past the rest of the line with its break, if there is nothing left on it but blanks and a
comment. -/
def lineRemainder? (c : Cursor) : Option Cursor :=
  let c := c.skipWhile isBlank
  let c := if c.rest.head? = some '#' then c.skipLine else c
  if atLineEnd c.rest then some c.skipBreak else none

end Cursor

end MemMap.Yaml
