import SysExporter.Text.Quoted
import SysExporter.Yaml.Mark

namespace SysExporter.Yaml

open Text

-- What was being read when a fault was met.
inductive Activity where
  | simpleKey
  | nextToken
  | directive
  | versionDirective
  | tagDirective
  | tagDirectiveHandle
  | tagDirectiveName
  | tagDirectivePrefix
  | aliasName
  | anchorName
  | tag
  | tagUri
  | blockScalar
  | quotedScalar
  | escape
  | plainScalar
  | node
  | blockNode
  | flowNode
  | blockCollection
  | blockMapping
  | flowSequence
  | flowMapping
  deriving DecidableEq, Repr

def Activity.text : Activity → String
  | .simpleKey => "while scanning a simple key"
  | .nextToken => "while scanning for the next token"
  | .directive => "while scanning a directive"
  | .versionDirective => "while scanning a %YAML directive"
  | .tagDirective => "while scanning a %TAG directive"
  | .tagDirectiveHandle => "while scanning a tag directive"
  | .tagDirectiveName => "while parsing a tag directive"
  | .tagDirectivePrefix => "while parsing a %TAG directive"
  | .aliasName => "while scanning an alias"
  | .anchorName => "while scanning an anchor"
  | .tag => "while scanning a tag"
  | .tagUri => "while parsing a tag"
  | .blockScalar => "while scanning a block scalar"
  | .quotedScalar => "while scanning a quoted scalar"
  | .escape => "while parsing a quoted scalar"
  | .plainScalar => "while scanning a plain scalar"
  | .node => "while parsing a node"
  | .blockNode => "while parsing a block node"
  | .flowNode => "while parsing a flow node"
  | .blockCollection => "while parsing a block collection"
  | .blockMapping => "while parsing a block mapping"
  | .flowSequence => "while parsing a flow sequence"
  | .flowMapping => "while parsing a flow mapping"

inductive Problem where
  | controlCharacter
  | noColon
  | sequenceEntryNotAllowed
  | keyNotAllowed
  | valueNotAllowed
  | noTokenStart
  | noDirectiveName
  | badDirectiveName
  | unknownDirective
  | longVersion
  | noVersion
  | noVersionPoint
  | noWhitespace
  | noWhitespaceOrBreak
  | noCommentOrBreak
  | noWordCharacter
  | noExclamationMark
  | noTagEnd
  | noTagUri
  | noEscapedOctet
  | badLeadingOctet
  | badTrailingOctet
  | zeroIndentation
  | tabForIndentation
  | documentIndicator
  | endOfStream
  | unknownEscape
  | noHexNumber
  | badCodePoint
  | unexpectedColon
  | tabViolatesIndentation
  | noDocumentStart
  | duplicateVersion
  | incompatibleVersion
  | duplicateTagDirective
  | undefinedHandle
  | noNodeContent
  | noDash
  | noKey
  | noCommaOrBracket
  | noCommaOrBrace
  deriving DecidableEq, Repr

def Problem.text : Problem → String
  | .controlCharacter => "control characters are not allowed"
  | .noColon => "could not find expected ':'"
  | .sequenceEntryNotAllowed => "block sequence entries are not allowed in this context"
  | .keyNotAllowed => "mapping keys are not allowed in this context"
  | .valueNotAllowed => "mapping values are not allowed in this context"
  | .noTokenStart => "found character that cannot start any token"
  | .noDirectiveName => "could not find expected directive name"
  | .badDirectiveName => "found unexpected non-alphabetical character"
  | .unknownDirective => "found unknown directive name"
  | .longVersion => "found extremely long version number"
  | .noVersion => "did not find expected version number"
  | .noVersionPoint => "did not find expected digit or '.' character"
  | .noWhitespace => "did not find expected whitespace"
  | .noWhitespaceOrBreak => "did not find expected whitespace or line break"
  | .noCommentOrBreak => "did not find expected comment or line break"
  | .noWordCharacter => "did not find expected alphabetic or numeric character"
  | .noExclamationMark => "did not find expected '!'"
  | .noTagEnd => "did not find the expected '>'"
  | .noTagUri => "did not find expected tag URI"
  | .noEscapedOctet => "did not find URI escaped octet"
  | .badLeadingOctet => "found an incorrect leading UTF-8 octet"
  | .badTrailingOctet => "found an incorrect trailing UTF-8 octet"
  | .zeroIndentation => "found an indentation indicator equal to 0"
  | .tabForIndentation => "found a tab character where an indentation space is expected"
  | .documentIndicator => "found unexpected document indicator"
  | .endOfStream => "found unexpected end of stream"
  | .unknownEscape => "found unknown escape character"
  | .noHexNumber => "did not find expected hexdecimal number"
  | .badCodePoint => "found invalid Unicode character escape code"
  | .unexpectedColon => "found unexpected ':'"
  | .tabViolatesIndentation => "found a tab character that violates indentation"
  | .noDocumentStart => "did not find expected <document start>"
  | .duplicateVersion => "found duplicate %YAML directive"
  | .incompatibleVersion => "found incompatible YAML document"
  | .duplicateTagDirective => "found duplicate %TAG directive"
  | .undefinedHandle => "found undefined tag handle"
  | .noNodeContent => "did not find expected node content"
  | .noDash => "did not find expected '-' indicator"
  | .noKey => "did not find expected key"
  | .noCommaOrBracket => "did not find expected ',' or ']'"
  | .noCommaOrBrace => "did not find expected ',' or '\x7d'"

-- Where in the pipeline a fault belongs: to the characters, to the tokens that
-- they make up, or to the order of the tokens.
inductive Level where
  | reader
  | scanner
  | parser
  deriving DecidableEq, Repr

def Level.text : Level → String
  | .reader => "READER"
  | .scanner => "SCANNER"
  | .parser => "PARSER"

structure SyntaxFault where
  level : Level
  problem : Problem
  mark : Mark
  context : Option (Activity × Mark)
  deriving DecidableEq, Repr

def markField (name : String) (m : Mark) : List String :=
  if m.isStart then []
  else [name ++ s!": Mark \x7b line: {m.line + 1}, column: {m.column + 1} \x7d"]

def record (name : String) (fields : List String) : String :=
  name ++ " \x7b " ++ ", ".intercalate fields ++ " \x7d"

def SyntaxFault.debug (f : SyntaxFault) : String :=
  let context := match f.context with
    | none => []
    | some (activity, start) =>
      ("context: " ++ quote activity.text) :: markField "context_mark" start
  record "Error" (["kind: " ++ f.level.text, "problem: " ++ quote f.problem.text] ++
    markField "problem_mark" f.mark ++ context)

inductive Fault where
  | badSyntax (fault : SyntaxFault)
  | badCharacter (offset : Nat)
  | unknownAnchor (mark : Mark)
  | manyDocuments
  | endOfEvents
  deriving DecidableEq, Repr

def offsetField (offset : Nat) : List String :=
  if offset = 0 then [] else [s!"problem_offset: {offset}"]

def Fault.debug : Fault → String
  | .badSyntax fault => fault.debug
  | .badCharacter offset =>
    record "Error" (["kind: " ++ Level.reader.text,
      "problem: " ++ quote Problem.controlCharacter.text] ++ offsetField offset)
  | .unknownAnchor mark =>
    s!"Error(\"unknown anchor\", line: {mark.line + 1}, column: {mark.column + 1})"
  | .manyDocuments =>
    "Error(\"deserializing from YAML containing more than one document is not supported\")"
  | .endOfEvents => "Error(\"EOF while parsing a value\")"

end SysExporter.Yaml
