/-! Why a YAML text cannot be read. -/
namespace Scaffold.Yaml

/-- The causes for which a YAML text is refused. -/
inductive ReadError where
  | controlCharacter
  | tabIndentation
  | missingColon
  | blockEntryContext
  | blockKeyContext
  | blockValueContext
  | unknownDirective
  | malformedDirective
  | incompatibleVersion
  | duplicateDirective
  | malformedAnchor
  | malformedTag
  | undefinedTagHandle
  | malformedBlockHeader
  | documentMarkInScalar
  | unclosedScalar
  | unknownEscape
  | invalidEscape
  | colonInFlow
  | badTokenStart
  | missingDocumentStart
  | missingContent
  | missingBlockEntry
  | missingBlockKey
  | missingFlowEnd
  | unknownAnchor
  | tooManyAliases
  | tooDeep
  | moreThanOneDocument
  | invalidScalar
  | integerOutOfRange
  | unsupportedTag
  | duplicateKey
  | invalidKey
  deriving DecidableEq, Repr

def ReadError.message : ReadError → String
  | .controlCharacter => "control characters are not allowed"
  | .tabIndentation => "found a tab where indentation is expected"
  | .missingColon => "could not find expected ':'"
  | .blockEntryContext => "block sequence entries are not allowed in this context"
  | .blockKeyContext => "mapping keys are not allowed in this context"
  | .blockValueContext => "mapping values are not allowed in this context"
  | .unknownDirective => "found an unknown directive"
  | .malformedDirective => "malformed directive"
  | .incompatibleVersion => "incompatible version"
  | .duplicateDirective => "found a duplicate directive"
  | .malformedAnchor => "malformed anchor or alias"
  | .malformedTag => "malformed tag"
  | .undefinedTagHandle => "found an undefined tag handle"
  | .malformedBlockHeader => "malformed header of a block scalar"
  | .documentMarkInScalar => "unexpected document mark in a quoted scalar"
  | .unclosedScalar => "unexpected end of a quoted scalar"
  | .unknownEscape => "found an unknown escape character"
  | .invalidEscape => "found an invalid escape code"
  | .colonInFlow => "found an unexpected ':'"
  | .badTokenStart => "found a character that cannot start any token"
  | .missingDocumentStart => "did not find expected document start"
  | .missingContent => "did not find expected node content"
  | .missingBlockEntry => "did not find expected '-' indicator"
  | .missingBlockKey => "did not find expected key"
  | .missingFlowEnd => "did not find expected end of a flow collection"
  | .unknownAnchor => "unknown anchor"
  | .tooManyAliases => "repetition limit exceeded"
  | .tooDeep => "recursion limit exceeded"
  | .moreThanOneDocument => "more than one document"
  | .invalidScalar => "the scalar does not fit its tag"
  | .integerOutOfRange => "integer out of range"
  | .unsupportedTag => "unsupported tag"
  | .duplicateKey => "duplicate entry in a mapping"
  | .invalidKey => "a key must be a scalar"

end Scaffold.Yaml
