import MemMap.Text.Unprintable
import MemMap.Text.GraphemeExtend

/-!
# MemMap.Text.Escaped

The quoted form in which names and keys appear inside diagnostics. A text stands between
double quotes; a quote, a backslash and the usual controls get their short escapes, and
every other character that would not be seen, or would be drawn onto its neighbour, is
written by its code point as `\u{hex}`.
-/

namespace MemMap.Text

/-- The lower-case hexadecimal digits of `n`, at least one. -/
def hexDigits (n : Nat) : List Char :=
  Nat.toDigits 16 n

/-- How one character appears inside a quoted text. -/
def escapeChar (c : Char) : List Char :=
  if c = '\x00' then ['\\', '0']
  else if c = '\t' then ['\\', 't']
  else if c = '\r' then ['\\', 'r']
  else if c = '\n' then ['\\', 'n']
  else if c = '\\' then ['\\', '\\']
  else if c = '"' then ['\\', '"']
  else if isGraphemeExtend c || isUnprintable c then
    ['\\', 'u', '\x7b'] ++ hexDigits c.toNat ++ ['\x7d']
  else [c]

/-- `s` between double quotes, with every character escaped that needs it. -/
def quoted (s : String) : String :=
  String.ofList ('"' :: s.toList.flatMap escapeChar ++ ['"'])

end MemMap.Text
