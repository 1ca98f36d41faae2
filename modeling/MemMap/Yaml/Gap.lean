import MemMap.Yaml.Cursor

/-!
# MemMap.Yaml.Gap

The blanks and line breaks between two words of a scalar, and what they stand for. Blanks
on one line stand for themselves. Around a line break blanks are dropped; a single break
stands for a space, and of several the first is dropped.
-/

namespace MemMap.Yaml

/-- What was met since the last word, latest first. -/
inductive Gap where
  /-- Blanks, no line break yet. -/
  | blanks (met : List Char)
  /-- At least one line break: the first, unless it was escaped, and the further ones. -/
  | breaks (first : Option Char) (more : List Char)
  deriving DecidableEq, Repr

namespace Gap

/-- Nothing between two characters of a word. -/
def none : Gap := .blanks []

/-- Whether nothing was met. -/
def isNone : Gap → Bool
  | .blanks [] => true
  | _ => false

/-- Whether a line break was met. -/
def isBroken : Gap → Bool
  | .breaks .. => true
  | .blanks _ => false

/-- One more blank; it counts only as long as there is no break. -/
def addBlank (g : Gap) (c : Char) : Gap :=
  match g with
  | .blanks met => .blanks (c :: met)
  | .breaks first more => .breaks first more

/-- One more line break. -/
def addBreak (g : Gap) (c : Char) : Gap :=
  match g with
  | .blanks _ => .breaks (some c) []
  | .breaks first more => .breaks first (c :: more)

/-- The text that the gap stands for. -/
def text : Gap → List Char
  | .blanks met => met.reverse
  | .breaks (some '\n') [] => [' ']
  | .breaks (some '\n') more => more.reverse
  | .breaks (some c) more => c :: more.reverse
  | .breaks .none more => more.reverse

/-- A scalar's text, latest character first, with the gap filled in. -/
def fill (g : Gap) (met : List Char) : List Char :=
  g.text.reverse ++ met

@[simp]
theorem fill_none (met : List Char) : none.fill met = met := rfl

end Gap

end MemMap.Yaml
