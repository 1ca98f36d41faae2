/-!
# MemMap.Yaml.Fault

Why a text is no YAML document, from the characters up to the values.
-/

namespace MemMap.Yaml

/-- What is wrong with a YAML text. -/
inductive Fault where
  /-- A control character that no text may hold. -/
  | forbiddenCharacter
  /-- A token that begins where none may begin. -/
  | misplacedIndicator
  /-- A key that must stand on its line is not followed by a colon. -/
  | keyWithoutColon
  /-- No token begins with this character. -/
  | unknownToken
  | malformedDirective
  | malformedAnchor
  | malformedTag
  | malformedEscape
  | malformedBlockHeader
  /-- A tab where the indentation decides. -/
  | tabInIndentation
  | unclosedQuote
  /-- A colon that touches a flow indicator. -/
  | colonBeforeIndicator
  /-- A token that no rule of the grammar allows there. -/
  | unexpectedToken
  | unsupportedVersion
  | repeatedDirective
  | unknownTagHandle
  | unknownAnchor
  | severalDocuments
  /-- Collections nested too deeply. -/
  | nestingTooDeep
  /-- More aliases followed than the document's size allows. -/
  | tooManyAliases
  | repeatedKey
  /-- A scalar that is not what its tag says. -/
  | scalarAgainstTag
  /-- An integer of more than 64 bits. -/
  | integerTooWide
  /-- A value that does not have the form its reader asks for. -/
  | unexpectedForm
  deriving DecidableEq, Repr

/-- A short account of the fault. -/
def Fault.message : Fault → String
  | .forbiddenCharacter => "control characters are not allowed"
  | .misplacedIndicator => "this indicator is not allowed here"
  | .keyWithoutColon => "a key is not followed by a colon"
  | .unknownToken => "no token starts with this character"
  | .malformedDirective => "malformed directive"
  | .malformedAnchor => "malformed anchor or alias"
  | .malformedTag => "malformed tag"
  | .malformedEscape => "malformed escape sequence"
  | .malformedBlockHeader => "malformed block scalar header"
  | .tabInIndentation => "a tab stands where indentation is expected"
  | .unclosedQuote => "a quoted scalar is not closed"
  | .colonBeforeIndicator => "a colon is followed by a flow indicator"
  | .unexpectedToken => "unexpected token"
  | .unsupportedVersion => "unsupported version"
  | .repeatedDirective => "repeated directive"
  | .unknownTagHandle => "undefined tag handle"
  | .unknownAnchor => "unknown anchor"
  | .severalDocuments => "more than one document"
  | .nestingTooDeep => "nesting is too deep"
  | .tooManyAliases => "too many aliases are followed"
  | .repeatedKey => "repeated mapping key"
  | .scalarAgainstTag => "a scalar does not fit its tag"
  | .integerTooWide => "an integer is too wide"
  | .unexpectedForm => "a value has an unexpected form"

end MemMap.Yaml
