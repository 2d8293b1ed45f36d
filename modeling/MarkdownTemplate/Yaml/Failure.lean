import MarkdownTemplate.Yaml.Mark

/-!
# What can be wrong with a YAML text

A `Failure` says what is wrong and where, and what was being read from which place on. All wording
is in `Cause.message`, `Activity.message` and `Failure.message`.
-/

namespace MarkdownTemplate

namespace Yaml

/-- What is wrong. -/
inductive Cause where
  -- characters that no text may hold
  | controlCharacter
  -- keys, values and items that may not stand where they do
  | keyWithoutValue
  | itemNotAllowed
  | keyNotAllowed
  | valueNotAllowed
  -- characters that start no token
  | noToken
  -- directives
  | directiveWithoutName
  | directiveNameEnd
  | unknownDirective
  | lineEnd
  | versionPoint
  | versionTooLong
  | versionNumber
  -- anchors and tags
  | blankAfterHandle
  | blankAfterTag
  | anchorName
  | tagEnd
  | handleMark
  | tagText
  | escapedOctet
  | leadingOctet
  | trailingOctet
  -- scalars
  | zeroIndentation
  | tabInIndentation
  | tabBeforeText
  | unexpectedColon
  | documentMark
  | unexpectedEnd
  | unknownEscape
  | hexDigit
  | invalidCode
  -- documents
  | documentStart
  | repeatedVersion
  | incompatibleVersion
  | repeatedHandle
  | undefinedHandle
  -- what is needed in a document or collection and is not there
  | nodeContent
  | itemMark
  | key
  | itemEnd
  | entryEnd
deriving DecidableEq

/-- The wording of a cause. -/
def Cause.message : Cause → String
  | controlCharacter => "control characters are not allowed"
  | keyWithoutValue => "could not find expected ':'"
  | itemNotAllowed => "block sequence entries are not allowed in this context"
  | keyNotAllowed => "mapping keys are not allowed in this context"
  | valueNotAllowed => "mapping values are not allowed in this context"
  | noToken => "found character that cannot start any token"
  | directiveWithoutName => "could not find expected directive name"
  | directiveNameEnd => "found unexpected non-alphabetical character"
  | unknownDirective => "found unknown directive name"
  | lineEnd => "did not find expected comment or line break"
  | versionPoint => "did not find expected digit or '.' character"
  | versionTooLong => "found extremely long version number"
  | versionNumber => "did not find expected version number"
  | blankAfterHandle => "did not find expected whitespace"
  | blankAfterTag => "did not find expected whitespace or line break"
  | anchorName => "did not find expected alphabetic or numeric character"
  | tagEnd => "did not find the expected '>'"
  | handleMark => "did not find expected '!'"
  | tagText => "did not find expected tag URI"
  | escapedOctet => "did not find URI escaped octet"
  | leadingOctet => "found an incorrect leading UTF-8 octet"
  | trailingOctet => "found an incorrect trailing UTF-8 octet"
  | zeroIndentation => "found an indentation indicator equal to 0"
  | tabInIndentation => "found a tab character where an indentation space is expected"
  | tabBeforeText => "found a tab character that violates indentation"
  | unexpectedColon => "found unexpected ':'"
  | documentMark => "found unexpected document indicator"
  | unexpectedEnd => "found unexpected end of stream"
  | unknownEscape => "found unknown escape character"
  | hexDigit => "did not find expected hexadecimal number"
  | invalidCode => "found invalid Unicode character escape code"
  | documentStart => "did not find expected <document start>"
  | repeatedVersion => "found duplicate %YAML directive"
  | incompatibleVersion => "found incompatible YAML document"
  | repeatedHandle => "found duplicate %TAG directive"
  | undefinedHandle => "found undefined tag handle"
  | nodeContent => "did not find expected node content"
  | itemMark => "did not find expected '-' indicator"
  | key => "did not find expected key"
  | itemEnd => "did not find expected ',' or ']'"
  | entryEnd => "did not find expected ',' or '\x7d'"

/-- What was being read. -/
inductive Activity where
  -- tokens
  | simpleKey
  | directive
  | versionDirective
  | tagDirective
  | tagDirectiveMark
  | tagDirectiveHandle
  | tagDirectiveText
  | tag
  | tagText
  | anchor
  | aliasName
  | nextToken
  | blockScalar
  | plainScalar
  | quotedScalar
  | escape
  -- nodes
  | node
  | blockNode
  | flowNode
  | blockCollection
  | blockMapping
  | flowSequence
  | flowMapping
deriving DecidableEq

/-- The wording of an activity. -/
def Activity.message : Activity → String
  | simpleKey => "while scanning a simple key"
  | directive => "while scanning a directive"
  | versionDirective => "while scanning a %YAML directive"
  | tagDirective => "while scanning a %TAG directive"
  | tagDirectiveMark => "while scanning a tag directive"
  | tagDirectiveHandle => "while parsing a tag directive"
  | tagDirectiveText => "while parsing a %TAG directive"
  | tag => "while scanning a tag"
  | tagText => "while parsing a tag"
  | anchor => "while scanning an anchor"
  | aliasName => "while scanning an alias"
  | nextToken => "while scanning for the next token"
  | blockScalar => "while scanning a block scalar"
  | plainScalar => "while scanning a plain scalar"
  | quotedScalar => "while scanning a quoted scalar"
  | escape => "while parsing a quoted scalar"
  | node => "while parsing a node"
  | blockNode => "while parsing a block node"
  | flowNode => "while parsing a flow node"
  | blockCollection => "while parsing a block collection"
  | blockMapping => "while parsing a block mapping"
  | flowSequence => "while parsing a flow sequence"
  | flowMapping => "while parsing a flow mapping"

/-- What is wrong with a text, and where. -/
structure Failure where
  /-- What is wrong. -/
  cause : Cause
  /-- Where it is wrong. -/
  mark : Mark
  /-- What was being read, and from where on. -/
  activity : Option (Activity × Mark) := none
  /-- How many bytes come before the place, if the text could not be read at all. -/
  offset : Nat := 0
deriving DecidableEq

/-- The wording of a failure. Places at the start of the text are not named, nor is the place where
the activity started if the failure is there. -/
def Failure.message (failure : Failure) : String :=
  let place :=
    if failure.mark.isStart && failure.offset != 0 then s!" at position {failure.offset}"
    else failure.mark.suffix
  let context :=
    match failure.activity with
    | none => ""
    | some (activity, start) =>
      let samePlace := start.line == failure.mark.line && start.column == failure.mark.column
      ", " ++ activity.message ++ if samePlace then "" else start.suffix
  failure.cause.message ++ place ++ context

end Yaml

end MarkdownTemplate
