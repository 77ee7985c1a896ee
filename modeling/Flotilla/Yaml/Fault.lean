import Flotilla.Text.Basic
import Flotilla.Yaml.Cursor

/-! # Faults of a YAML text

Every way in which a text can fail to be YAML. The wording gives what is wrong and,
where it helps, what was being read when it was met. -/
namespace Flotilla.Yaml

inductive Problem where
  | badStart
  | noColon
  | elementNotAllowed
  | keyNotAllowed
  | valueNotAllowed
  | unexpectedColon
  | tabInIndentation
  | tabForSpace
  | boundInQuotes
  | endInQuotes
  | unknownEscape
  | badHex
  | badCodePoint
  | zeroIndentation
  | noLineEnd
  | badAnchor
  | noTagClose
  | noTagSpace
  | noTagText
  | noTagMark
  | badTagEscape
  | badFirstByte
  | badFurtherByte
  | noDirectiveName
  | badDirectiveName
  | unknownDirective
  | noVersionPoint
  | noVersionNumber
  | longVersionNumber
  | noSpace
  | wrongVersion
  | repeatedVersion
  | repeatedTag
  | noDocumentStart
  | undefinedTag
  | noContent
  | noElement
  | noKey
  | noListSeparator
  | noMapSeparator
deriving DecidableEq, Repr

def Problem.text : Problem → String
  | .badStart => "found character that cannot start any token"
  | .noColon => "could not find expected ':'"
  | .elementNotAllowed => "block sequence entries are not allowed in this context"
  | .keyNotAllowed => "mapping keys are not allowed in this context"
  | .valueNotAllowed => "mapping values are not allowed in this context"
  | .unexpectedColon => "found unexpected ':'"
  | .tabInIndentation => "found a tab character that violates indentation"
  | .tabForSpace => "found a tab character where an indentation space is expected"
  | .boundInQuotes => "found unexpected document indicator"
  | .endInQuotes => "found unexpected end of stream"
  | .unknownEscape => "found unknown escape character"
  | .badHex => "did not find expected hexadecimal number"
  | .badCodePoint => "found invalid Unicode character escape code"
  | .zeroIndentation => "found an indentation indicator equal to 0"
  | .noLineEnd => "did not find expected comment or line break"
  | .badAnchor => "did not find expected alphabetic or numeric character"
  | .noTagClose => "did not find the expected '>'"
  | .noTagSpace => "did not find expected whitespace or line break"
  | .noTagText => "did not find expected tag URI"
  | .noTagMark => "did not find expected '!'"
  | .badTagEscape => "did not find URI escaped octet"
  | .badFirstByte => "found an incorrect leading UTF-8 octet"
  | .badFurtherByte => "found an incorrect trailing UTF-8 octet"
  | .noDirectiveName => "could not find expected directive name"
  | .badDirectiveName => "found unexpected non-alphabetical character"
  | .unknownDirective => "found unknown directive name"
  | .noVersionPoint => "did not find expected digit or '.' character"
  | .noVersionNumber => "did not find expected version number"
  | .longVersionNumber => "found extremely long version number"
  | .noSpace => "did not find expected whitespace"
  | .wrongVersion => "found incompatible YAML document"
  | .repeatedVersion => "found duplicate %YAML directive"
  | .repeatedTag => "found duplicate %TAG directive"
  | .noDocumentStart => "did not find expected <document start>"
  | .undefinedTag => "found undefined tag handle"
  | .noContent => "did not find expected node content"
  | .noElement => "did not find expected '-' indicator"
  | .noKey => "did not find expected key"
  | .noListSeparator => "did not find expected ',' or ']'"
  | .noMapSeparator => "did not find expected ',' or '\x7d'"

inductive Activity where
  | nextToken
  | simpleKey
  | plain
  | quoted
  | escape
  | block
  | anchor
  | alias
  | tag
  | tagText
  | directive
  | versionDirective
  | tagDirective
  | tagDirectiveText
  | tagHandle
  | tagHandleText
  | node
  | blockNode
  | flowNode
  | blockList
  | blockMap
  | flowList
  | flowMap
deriving DecidableEq, Repr

def Activity.text : Activity → String
  | .nextToken => "while scanning for the next token"
  | .simpleKey => "while scanning a simple key"
  | .plain => "while scanning a plain scalar"
  | .quoted => "while scanning a quoted scalar"
  | .escape => "while parsing a quoted scalar"
  | .block => "while scanning a block scalar"
  | .anchor => "while scanning an anchor"
  | .alias => "while scanning an alias"
  | .tag => "while scanning a tag"
  | .tagText => "while parsing a tag"
  | .directive => "while scanning a directive"
  | .versionDirective => "while scanning a %YAML directive"
  | .tagDirective => "while scanning a %TAG directive"
  | .tagDirectiveText => "while parsing a %TAG directive"
  | .tagHandle => "while scanning a tag directive"
  | .tagHandleText => "while parsing a tag directive"
  | .node => "while parsing a node"
  | .blockNode => "while parsing a block node"
  | .flowNode => "while parsing a flow node"
  | .blockList => "while parsing a block collection"
  | .blockMap => "while parsing a block mapping"
  | .flowList => "while parsing a flow sequence"
  | .flowMap => "while parsing a flow mapping"

/-- A way in which a text fails to be YAML. -/
inductive Fault where
  /-- A control character, by its place in bytes. -/
  | forbidden (offset : Nat)
  | broken (problem : Problem) (reading : Option Activity)
  | unknownAnchor
  | manyDocuments
  | noDocument
deriving DecidableEq

def Fault.met (problem : Problem) (activity : Activity) : Fault :=
  .broken problem (some activity)

def Fault.message : Fault → String
  | .forbidden offset =>
    "control characters are not allowed"
      ++ (if offset = 0 then "" else " at position " ++ Text.ofNat offset)
  | .broken problem none => problem.text
  | .broken problem (some activity) => problem.text ++ ", " ++ activity.text
  | .unknownAnchor => "unknown anchor"
  | .manyDocuments =>
    "deserializing from YAML containing more than one document is not supported"
  | .noDocument => "EOF while parsing a value"

end Flotilla.Yaml
