import MemMap.Yaml.Fault
import MemMap.Yaml.Gap

/-!
# MemMap.Yaml.Quoted

Scalars between quotes. Between single quotes only the quote itself is special and is
written twice; between double quotes a backslash starts an escape. Line breaks fold in
both, and neither may hold the mark of a document.
-/

namespace MemMap.Yaml

/-! ## Single quotes -/

/-- Read up to the closing quote. `met` is the text so far, latest first. -/
def singleQuotedFrom : List Char → Mark → Gap → List Char → Except Fault (String × Cursor)
  | [], _, _, _ => .error .unclosedQuote
  | '\'' :: '\'' :: r, m, g, met =>
    singleQuotedFrom r ((m.past '\'').past '\'') .none ('\'' :: g.fill met)
  | '\r' :: '\n' :: r, m, g, met => singleQuotedFrom r m.nextLine (g.addBreak '\n') met
  | c :: r, m, g, met =>
    if c = '\'' then
      .ok (String.ofList (g.fill met).reverse, ⟨r, m.past c⟩)
    else if isBreak c then
      singleQuotedFrom r m.nextLine (g.addBreak (normalBreak c)) met
    else if isBlank c then
      singleQuotedFrom r (m.past c) (g.addBlank c) met
    else if m.column = 0 && atDocumentMark (c :: r) then
      .error .unclosedQuote
    else
      singleQuotedFrom r (m.past c) .none (c :: g.fill met)

/-- The scalar that starts at a single quote. -/
def singleQuoted (c : Cursor) : Except Fault (String × Cursor) :=
  let body := c.skip 1
  singleQuotedFrom body.rest body.mark .none []

/-! ## Double quotes -/

/-- The character that a one-letter escape stands for. -/
def simpleEscape? : Char → Option Char
  | '0' => some '\x00'
  | 'a' => some '\x07'
  | 'b' => some '\x08'
  | 't' => some '\t'
  | '\t' => some '\t'
  | 'n' => some '\n'
  | 'v' => some '\x0b'
  | 'f' => some '\x0c'
  | 'r' => some '\r'
  | 'e' => some '\x1b'
  | ' ' => some ' '
  | '"' => some '"'
  | '/' => some '/'
  | '\\' => some '\\'
  | 'N' => some '\x85'
  | '_' => some '\xa0'
  | 'L' => some '\u2028'
  | 'P' => some '\u2029'
  | _ => none

/-- How many hexadecimal digits an escape of that letter takes. -/
def escapeWidth? : Char → Option Nat
  | 'x' => some 2
  | 'u' => some 4
  | 'U' => some 8
  | _ => none

/-- The value of a hexadecimal digit. -/
def hexValue? (c : Char) : Option Nat :=
  let n := c.toNat
  if 48 ≤ n && n ≤ 57 then some (n - 48)
  else if 65 ≤ n && n ≤ 70 then some (n - 55)
  else if 97 ≤ n && n ≤ 102 then some (n - 87)
  else none

/-- The character with that code point. -/
def charOfCode? (n : Nat) : Option Char :=
  if h : n.isValidChar then some (Char.ofNatAux n h) else none

/-- What the next character of a double-quoted scalar is part of. -/
inductive Expecting where
  | character
  /-- The letter of an escape. -/
  | escape
  /-- A digit of an escape, with so many still to come after it. -/
  | digit (left : Nat) (value : Nat)
  deriving DecidableEq, Repr

/-- Read up to the closing quote. `met` is the text so far, latest first. -/
def doubleQuotedFrom :
    List Char → Mark → Expecting → Gap → List Char → Except Fault (String × Cursor)
  | [], _, _, _, _ => .error .unclosedQuote
  | '\r' :: '\n' :: r, m, .character, g, met =>
    doubleQuotedFrom r m.nextLine .character (g.addBreak '\n') met
  | '\r' :: '\n' :: r, m, .escape, _, met =>
    doubleQuotedFrom r m.nextLine .character (.breaks none []) met
  | c :: r, m, .character, g, met =>
    if c = '"' then
      .ok (String.ofList (g.fill met).reverse, ⟨r, m.past c⟩)
    else if c = '\\' then
      doubleQuotedFrom r (m.past c) .escape .none (g.fill met)
    else if isBreak c then
      doubleQuotedFrom r m.nextLine .character (g.addBreak (normalBreak c)) met
    else if isBlank c then
      doubleQuotedFrom r (m.past c) .character (g.addBlank c) met
    else if m.column = 0 && atDocumentMark (c :: r) then
      .error .unclosedQuote
    else
      doubleQuotedFrom r (m.past c) .character .none (c :: g.fill met)
  | c :: r, m, .escape, _, met =>
    if isBreak c then
      doubleQuotedFrom r m.nextLine .character (.breaks none []) met
    else
      match simpleEscape? c, escapeWidth? c with
      | some e, _ => doubleQuotedFrom r (m.past c) .character .none (e :: met)
      | none, some width => doubleQuotedFrom r (m.past c) (.digit (width - 1) 0) .none met
      | none, none => .error .malformedEscape
  | c :: r, m, .digit left value, _, met =>
    match hexValue? c with
    | none => .error .malformedEscape
    | some d =>
      let value := value * 16 + d
      match left with
      | left + 1 => doubleQuotedFrom r (m.past c) (.digit left value) .none met
      | 0 =>
        match charOfCode? value with
        | some e => doubleQuotedFrom r (m.past c) .character .none (e :: met)
        | none => .error .malformedEscape

/-- The scalar that starts at a double quote. -/
def doubleQuoted (c : Cursor) : Except Fault (String × Cursor) :=
  let body := c.skip 1
  doubleQuotedFrom body.rest body.mark .character .none []

end MemMap.Yaml
