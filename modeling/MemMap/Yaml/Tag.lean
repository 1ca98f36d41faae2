import MemMap.Yaml.Quoted
import MemMap.Yaml.Token

/-!
# MemMap.Yaml.Tag

Tags, anchors and directives: the tokens that begin with `!`, `&`, `*` and `%`.

A tag is written in full between angle brackets, or as a handle and a suffix; what the
handle stands for is settled by the directives of the document. A lone `!` is a tag of its
own. Escapes in a tag spell octets of UTF-8, one whole character at a time.
-/

namespace MemMap.Yaml

/-! ## Tag texts -/

/-- Characters of a tag's suffix; commas and square brackets only where `wide`. -/
def isTagChar (wide : Bool) (c : Char) : Bool :=
  isNameChar c || [';', '/', '?', ':', '@', '&', '=', '+', '$', '.', '!', '~', '*', '\'',
    '(', ')'].contains c || (wide && [',', '[', ']'].contains c)

/-- How many octets follow `octet` as the first of a character. -/
def trailingOctets? (octet : Nat) : Option Nat :=
  if octet < 0x80 then some 0
  else if 0xc0 ≤ octet && octet < 0xe0 then some 1
  else if 0xe0 ≤ octet && octet < 0xf0 then some 2
  else if 0xf0 ≤ octet && octet < 0xf8 then some 3
  else none

/-- Read tag characters and escapes; `owed` octets are still to come for the character that
an escape has begun. -/
def tagTextFrom (wide : Bool) :
    List Char → Nat → List UInt8 → Except Fault (List UInt8 × List Char)
  | '%' :: a :: b :: r, owed, met =>
    match hexValue? a, hexValue? b with
    | some high, some low =>
      let octet := high * 16 + low
      match owed with
      | owed + 1 =>
        if 0x80 ≤ octet && octet < 0xc0 then tagTextFrom wide r owed (octet.toUInt8 :: met)
        else .error .malformedTag
      | 0 =>
        match trailingOctets? octet with
        | some n => tagTextFrom wide r n (octet.toUInt8 :: met)
        | none => .error .malformedTag
    | _, _ => .error .malformedTag
  | '%' :: _, _, _ => .error .malformedTag
  | _, _ + 1, _ => .error .malformedTag
  | c :: r, 0, met =>
    if isTagChar wide c then tagTextFrom wide r 0 (c.toNat.toUInt8 :: met)
    else .ok (met.reverse, c :: r)
  | [], 0, met => .ok (met.reverse, [])

/-- The part of a tag text before a zero octet, which ends it. -/
def tagOctets (octets : List UInt8) : List UInt8 :=
  octets.takeWhile (· ≠ 0)

/-- The octets of an ASCII text. -/
def asciiOctets (cs : List Char) : List UInt8 :=
  cs.map fun c => c.toNat.toUInt8

/-- A tag text of at least one character, behind `head`, and the place after it. -/
def tagText (wide : Bool) (head : List Char) (c : Cursor) :
    Except Fault (List UInt8 × Cursor) := do
  let (octets, rest) ← tagTextFrom wide c.rest 0 []
  let after := c.skip (c.rest.length - rest.length)
  if head.isEmpty && after.mark.column = c.mark.column then
    throw .malformedTag
  return (tagOctets (asciiOctets (head.drop 1) ++ octets), after)

/-- A handle: an exclamation mark, name characters, and a second mark if there is one. -/
def tagHandleChars (cs : List Char) : List Char :=
  match cs with
  | '!' :: r =>
    let name := r.takeWhile isNameChar
    match r.drop name.length with
    | '!' :: _ => '!' :: name ++ ['!']
    | _ => '!' :: name
  | _ => []

/-- Whether a handle is closed by a second mark. -/
def isClosedHandle (handle : List Char) : Bool :=
  1 < handle.length && handle.getLast? = some '!'

/-- The tag that starts at the cursor. Inside brackets a comma may follow it directly. -/
def tagToken (flow : Bool) (c : Cursor) : Except Fault (Token × Cursor) := do
  let (token, after) ←
    match c.rest with
    | '!' :: '<' :: _ => do
      let (octets, after) ← tagText true [] (c.skip 2)
      if after.rest.head? = some '>' then
        pure (Token.tag "" octets, after.skip 1)
      else
        throw .malformedTag
    | cs => do
      let handle := tagHandleChars cs
      let body := c.skip handle.length
      if isClosedHandle handle then
        let (octets, after) ← tagText false [] body
        pure (Token.tag (String.ofList handle) octets, after)
      else
        let (octets, after) ← tagText false handle body
        if octets.isEmpty then pure (Token.tag "" (asciiOctets ['!']), after)
        else pure (Token.tag "!" octets, after)
  if atWordEnd after.rest || (flow && after.rest.head? = some ',') then
    return (token, after)
  else
    throw .malformedTag

/-! ## Anchors and references -/

/-- What may follow a name directly, besides the end of the word. -/
def mayFollowName (cs : List Char) : Bool :=
  atWordEnd cs || match cs with
    | c :: _ => ['?', ':', ',', ']', '\x7d', '%', '@', '\x60'].contains c
    | [] => true

/-- The name behind the indicator of an anchor or a reference. -/
def anchorName (c : Cursor) : Except Fault (String × Cursor) :=
  let (name, after) := (c.skip 1).takeWhile isNameChar
  if name.isEmpty || !mayFollowName after.rest then .error .malformedAnchor
  else .ok (String.ofList name, after)

/-! ## Directives -/

/-- Version numbers have at most this many digits. -/
def maxVersionDigits : Nat := 9

/-- A number of a version. -/
def versionNumber (c : Cursor) : Except Fault (Nat × Cursor) :=
  let (digits, after) := c.takeWhile Char.isDigit
  if digits.isEmpty || maxVersionDigits < digits.length then .error .malformedDirective
  else .ok (digits.foldl (fun n d => n * 10 + (d.toNat - 48)) 0, after)

/-- The two numbers of a version. -/
def versionToken (c : Cursor) : Except Fault (Token × Cursor) := do
  let (major, point) ← versionNumber (c.skipWhile isBlank)
  if point.rest.head? = some '.' then
    let (minor, after) ← versionNumber (point.skip 1)
    return (.version major minor, after)
  else
    throw .malformedDirective

/-- A tag handle and what it stands for. -/
def tagHandleToken (c : Cursor) : Except Fault (Token × Cursor) := do
  let c := c.skipWhile isBlank
  let handle := tagHandleChars c.rest
  if handle.isEmpty || !(handle = ['!'] || isClosedHandle handle) then
    throw .malformedDirective
  let c := c.skip handle.length
  if !(c.rest.head?.any isBlank) then
    throw .malformedDirective
  let (start, after) ← tagText true [] (c.skipWhile isBlank)
  if atWordEnd after.rest then
    return (.tagHandle (String.ofList handle) start, after)
  else
    throw .malformedDirective

/-- The directive that starts at the cursor, with the rest of its line. -/
def directive (c : Cursor) : Except Fault (Token × Cursor) := do
  let (name, after) := (c.skip 1).takeWhile isNameChar
  if !atWordEnd after.rest then
    throw .malformedDirective
  let (token, after) ←
    if name = ['Y', 'A', 'M', 'L'] then versionToken after
    else if name = ['T', 'A', 'G'] then tagHandleToken after
    else throw .malformedDirective
  match after.lineRemainder? with
  | some next => return (token, next)
  | none => throw .malformedDirective

end MemMap.Yaml
