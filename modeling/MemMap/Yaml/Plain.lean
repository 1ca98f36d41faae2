import MemMap.Yaml.Fault
import MemMap.Yaml.Gap

/-!
# MemMap.Yaml.Plain

Scalars without quotes. One runs on over blanks and line breaks as long as its lines are
indented enough; it ends before a comment, a document mark, a colon that ends a word and,
inside brackets, before any flow indicator.
-/

namespace MemMap.Yaml

/-- The indicators that end a plain scalar inside brackets. -/
def isFlowIndicator (c : Char) : Bool :=
  c = ',' || c = '[' || c = ']' || c = '\x7b' || c = '\x7d'

/-- Whether a colon before `cs` would touch a flow indicator. -/
def touchesFlowIndicator : List Char → Bool
  | [] => false
  | c :: _ => isFlowIndicator c || c = '?'

/-- A plain scalar that was read. -/
structure Plain where
  text : String
  after : Cursor
  /-- Whether line breaks were passed behind its last word. -/
  brokeLine : Bool

/-- Where the words of a plain scalar stand. -/
structure PlainContext where
  /-- Inside brackets. -/
  flow : Bool
  /-- The least column of a further line outside brackets. -/
  indent : Int

/-- Read on from inside a plain scalar. `met` is the text so far, latest first. -/
def plainFrom (ctx : PlainContext) :
    List Char → Mark → Gap → List Char → Except Fault Plain
  | [], m, g, met => .ok ⟨String.ofList met.reverse, ⟨[], m⟩, g.isBroken⟩
  | '\r' :: '\n' :: r, m, g, met => plainFrom ctx r m.nextLine (g.addBreak '\n') met
  | c :: r, m, g, met =>
    if isBreak c then
      plainFrom ctx r m.nextLine (g.addBreak (normalBreak c)) met
    else if isBlank c then
      if c = '\t' && g.isBroken && m.column < ctx.indent then
        .error .tabInIndentation
      else
        plainFrom ctx r (m.past c) (g.addBlank c) met
    else if !g.isNone && ((!ctx.flow && m.column < ctx.indent) || c = '#'
        || (m.column = 0 && atDocumentMark (c :: r))) then
      .ok ⟨String.ofList met.reverse, ⟨c :: r, m⟩, g.isBroken⟩
    else if ctx.flow && c = ':' && touchesFlowIndicator r then
      .error .colonBeforeIndicator
    else if (c = ':' && atWordEnd r) || (ctx.flow && isFlowIndicator c) then
      .ok ⟨String.ofList met.reverse, ⟨c :: r, m⟩, g.isBroken⟩
    else
      plainFrom ctx r (m.past c) .none (c :: g.fill met)

/-- The plain scalar that starts at the cursor. -/
def plain (ctx : PlainContext) (c : Cursor) : Except Fault Plain :=
  plainFrom ctx c.rest c.mark .none []

end MemMap.Yaml
