import MemMap.Yaml.Cursor
import MemMap.Yaml.Resolve

/-!
# MemMap.Yaml.Written

Strings written as the value of an entry in a block mapping.

A string is written plainly if it is read back as that string; otherwise it is quoted, with
single quotes if they suffice. A string with a line feed is written as a literal block. What
cannot be shown is escaped between double quotes. The lines of a text that has several are
indented by two spaces.
-/

namespace MemMap.Yaml

/-! ## Styles -/

/-- The ways to write a string. -/
inductive Style where
  | plain
  | single
  | double
  | literal
  deriving DecidableEq, Repr

/-- Whether the string without quotes would be taken for a value of another kind or refused
as one, or has a needless zero in front. -/
def looksLikeOther (s : String) : Bool :=
  match plainValue s with
  | .ok (.string _) => isZeroPadded s.toList
  | .ok _ => true
  | .error _ => true

/-- Whether a character is shown as it is in every style. -/
def isShown (c : Char) : Bool :=
  let n := c.toNat
  n = 0x0a || (0x20 ≤ n && n ≤ 0x7e) || (0xa0 ≤ n && n ≤ 0xfffd && n ≠ 0xfeff)
    || 0x10000 ≤ n

/-- Whether a character at the beginning of a plain scalar would be taken for an indicator,
given what follows it. -/
def isLeadingIndicator (c : Char) (r : List Char) : Bool :=
  ['#', ',', '[', ']', '\x7b', '\x7d', '&', '*', '!', '|', '>', '\'', '"', '%', '@',
    '\x60'].contains c || (['?', ':', '-'].contains c && atWordEnd r)

/-- Whether a colon that ends a word, or a number sign that begins one, is in `cs`;
`afterSpace` tells what stands before. -/
def hasInnerIndicator : (afterSpace : Bool) → List Char → Bool
  | _, [] => false
  | afterSpace, c :: r =>
    (c = ':' && atWordEnd r) || (c = '#' && afterSpace) || hasInnerIndicator (isSpace c) r

/-- Whether the string without quotes would be taken apart. -/
def hasIndicator (cs : List Char) : Bool :=
  match cs with
  | '-' :: '-' :: '-' :: _ => true
  | '.' :: '.' :: '.' :: _ => true
  | c :: r => isLeadingIndicator c r || hasInnerIndicator (isSpace c) r
  | [] => false

/-- Whether a character of kind `p` stands directly before one of kind `q`. -/
def hasPair (p q : Char → Bool) : List Char → Bool
  | a :: b :: r => (p a && q b) || hasPair p q (b :: r)
  | _ => false

/-- Whether a character at one of the ends is of kind `p`. -/
def hasAtEnd (p : Char → Bool) (cs : List Char) : Bool :=
  cs.head?.any p || cs.getLast?.any p

/-- A space, other blanks apart. -/
def isPlainSpace (c : Char) : Bool := c = ' '

/-- Whether only double quotes can hold the string. -/
def needsDouble (cs : List Char) : Bool :=
  cs.any (!isShown ·) || hasPair isPlainSpace isBreak cs

/-- How a string is written. -/
def styleOf (s : String) : Style :=
  let cs := s.toList
  if cs.contains '\n' then
    if needsDouble cs || cs.getLast? = some ' ' then .double else .literal
  else if needsDouble cs || hasPair isBreak isPlainSpace cs then .double
  else if looksLikeOther s || hasIndicator cs || cs.any isBreak
      || hasAtEnd isPlainSpace cs then .single
  else .plain

/-! ## Texts -/

/-- What is written before the text of a further line. -/
def margin (lineStart : Bool) : List Char :=
  if lineStart then [' ', ' '] else []

/-- A string between single quotes, where a quote is written twice. The closing quote is
indented too. -/
def singleText : (lineStart : Bool) → List Char → List Char
  | lineStart, [] => margin lineStart
  | lineStart, c :: r =>
    if isBreak c then c :: singleText true r
    else
      margin lineStart ++ (if c = '\'' then ['\'', '\''] else [c]) ++ singleText false r

/-- An upper-case hexadecimal number of at least `width` digits. -/
def paddedHex (width n : Nat) : List Char :=
  let digits := (Nat.toDigits 16 n).map Char.toUpper
  List.replicate (width - digits.length) '0' ++ digits

/-- A character between double quotes. -/
def doubleChar (c : Char) : List Char :=
  let n := c.toNat
  if c = '"' then ['\\', '"']
  else if c = '\\' then ['\\', '\\']
  else if isShown c && !isBreak c then [c]
  else if n = 0 then ['\\', '0']
  else if n = 0x07 then ['\\', 'a']
  else if n = 0x08 then ['\\', 'b']
  else if n = 0x09 then ['\\', 't']
  else if n = 0x0a then ['\\', 'n']
  else if n = 0x0b then ['\\', 'v']
  else if n = 0x0c then ['\\', 'f']
  else if n = 0x0d then ['\\', 'r']
  else if n = 0x1b then ['\\', 'e']
  else if n = 0x85 then ['\\', 'N']
  else if n = 0x2028 then ['\\', 'L']
  else if n = 0x2029 then ['\\', 'P']
  else if n ≤ 0xff then '\\' :: 'x' :: paddedHex 2 n
  else '\\' :: 'u' :: paddedHex 4 n

/-- What the header of a literal block says about the breaks at its end. -/
def literalChomp (cs : List Char) : List Char :=
  match cs.reverse with
  | [] => ['-']
  | [c] => if isBreak c then ['+'] else ['-']
  | c :: d :: _ => if !isBreak c then ['-'] else if isBreak d then ['+'] else []

/-- The lines of a literal block, those with content indented. -/
def literalLines : (lineStart : Bool) → List Char → List Char
  | _, [] => []
  | lineStart, c :: r =>
    if isBreak c then c :: literalLines true r
    else margin lineStart ++ c :: literalLines false r

/-- A literal block. If the string does not end its last line, the block does. -/
def literalText (cs : List Char) : List Char :=
  let hint := if cs.head?.any isSpace then ['2'] else []
  let ending := if cs.getLast?.any isBreak then [] else ['\n']
  '|' :: hint ++ literalChomp cs ++ '\n' :: literalLines true cs ++ ending

/-- A string behind the colon of its key, with the break after it. -/
def writtenScalar (s : String) : String :=
  let cs := s.toList
  String.ofList <| ' ' ::
    match styleOf s with
    | .plain => cs ++ ['\n']
    | .single => '\'' :: singleText false cs ++ ['\'', '\n']
    | .double => '"' :: cs.flatMap doubleChar ++ ['"', '\n']
    | .literal => literalText cs

end MemMap.Yaml
