import RoleAudit.Text.Glyph
import RoleAudit.Text.Hex
import RoleAudit.Text.Quoted
import RoleAudit.Yaml.Mark

/-!
# What is wrong with a settings text

A text is read in phases: its characters must be printable, they must make tokens, the tokens nodes,
the nodes one document, and the document values. An error belongs to the first phase that fails. It
says what was going on and where that began, and what was wrong and where.
-/

namespace RoleAudit.Yaml

open RoleAudit.Text

/-- The phase of reading that fails. -/
inductive Phase where
  | characters
  | tokens
  | nodes
  | document
  | values
  deriving Repr, DecidableEq

/-- What was going on when something was found to be wrong. -/
inductive Activity where
  | nextToken
  | simpleKey
  | directive
  | directivePrefix
  | reference
  | anchor
  | tagScan
  | tagParse
  | blockScalar
  | doubleQuoted
  | quoted
  | node
  | blockNode
  | flowNode
  | blockCollection
  | blockMapping
  | flowSequence
  | flowMapping
  | oneDocument
  | firstAnchor (name : String)
  | mapping
  | orderedMap
  | pairList
  deriving Repr, DecidableEq

/-- The wording of an activity. -/
def Activity.text : Activity → String
  | nextToken => "while scanning for the next token"
  | simpleKey => "while scanning a simple key"
  | directive => "while scanning a directive"
  | directivePrefix => "while parsing a directive"
  | reference => "while scanning an alias"
  | anchor => "while scanning an anchor"
  | tagScan => "while scanning a tag"
  | tagParse => "while parsing a tag"
  | blockScalar => "while scanning a block scalar"
  | doubleQuoted => "while scanning a double-quoted scalar"
  | quoted => "while scanning a quoted scalar"
  | node => "while parsing a node"
  | blockNode => "while parsing a block node"
  | flowNode => "while parsing a flow node"
  | blockCollection => "while parsing a block collection"
  | blockMapping => "while parsing a block mapping"
  | flowSequence => "while parsing a flow sequence"
  | flowMapping => "while parsing a flow mapping"
  | oneDocument => "expected a single document in the stream"
  | firstAnchor name =>
    "found duplicate anchor " ++ RoleAudit.Text.quoted name ++ "; first occurrence"
  | mapping => "while constructing a mapping"
  | orderedMap => "while constructing an ordered map"
  | pairList => "while constructing pairs"

/-- What is wrong. -/
inductive Problem where
  /-- A character that may not stand in a text. -/
  | unprintable (char : Char)
  -- tokens
  | noToken (found : Char)
  | noColon
  | entryNotAllowed
  | keyNotAllowed
  | valueNotAllowed
  | notAlphanumeric (found : Char)
  | noDigit (found : Char)
  | noDigitOrPoint (found : Char)
  | noDigitOrSpace (found : Char)
  | noSpace (found : Char)
  | noBreak (found : Char)
  | noClosingBracket (found : Char)
  | noTagMark (found : Char)
  | noUri (found : Char)
  | noUriEscape (found : Char)
  | notUtf8 (error : Utf8Error)
  | zeroIndentation
  | noBlockIndicator (found : Char)
  | noEscapeDigit (digits : Nat) (found : Char)
  | unknownEscape (found : Char)
  | endOfText
  | documentSeparator
  -- structure
  | noDocumentStart (found : String)
  | repeatedVersion
  | otherVersion
  | repeatedHandle (handle : String)
  | unknownHandle (handle : String)
  | noContent (found : String)
  | noBlockEnd (found : String)
  | noSequenceEnd (found : String)
  | noMappingEnd (found : String)
  -- document
  | anotherDocument
  | unknownAlias (name : String)
  | secondAnchor
  -- values
  | unknownTag (tag : String)
  | noScalar (found : String)
  | noSequence (found : String)
  | noMapping (found : String)
  | unhashableKey
  | noMergeMapping (found : String)
  | noMerge (found : String)
  | noOrderedMap (found : String)
  | noSingleMapping (found : String)
  | severalItems (count : Nat)
  | notAscii (message : String)
  | notBase64 (message : String)
  deriving Repr, DecidableEq

/-- A character in quotes; the end of the text is shown as a NUL. -/
def shown (c : Char) : String := RoleAudit.Text.quoted (String.singleton c)

/-- The wording of a problem. -/
def Problem.text : Problem → String
  | unprintable _ => "special characters are not allowed"
  | noToken c => "found character " ++ shown c ++ " that cannot start any token"
  | noColon => "could not find expected ':'"
  | entryNotAllowed => "sequence entries are not allowed here"
  | keyNotAllowed => "mapping keys are not allowed here"
  | valueNotAllowed => "mapping values are not allowed here"
  | notAlphanumeric c => "expected alphabetic or numeric character, but found " ++ shown c
  | noDigit c => "expected a digit, but found " ++ shown c
  | noDigitOrPoint c => "expected a digit or '.', but found " ++ shown c
  | noDigitOrSpace c => "expected a digit or ' ', but found " ++ shown c
  | noSpace c => "expected ' ', but found " ++ shown c
  | noBreak c => "expected a comment or a line break, but found " ++ shown c
  | noClosingBracket c => "expected '>', but found " ++ shown c
  | noTagMark c => "expected '!', but found " ++ shown c
  | noUri c => "expected URI, but found " ++ shown c
  | noUriEscape c =>
    "expected URI escape sequence of 2 hexadecimal numbers, but found " ++ shown c
  | notUtf8 e => e.message
  | zeroIndentation => "expected indentation indicator in the range 1-9, but found 0"
  | noBlockIndicator c => "expected chomping or indentation indicators, but found " ++ shown c
  | noEscapeDigit n c =>
    "expected escape sequence of " ++ toString n ++ " hexadecimal numbers, but found " ++ shown c
  | unknownEscape c => "found unknown escape character " ++ shown c
  | endOfText => "found unexpected end of stream"
  | documentSeparator => "found unexpected document separator"
  | noDocumentStart found => "expected '<document start>', but found " ++ quoted found
  | repeatedVersion => "found duplicate YAML directive"
  | otherVersion => "found incompatible YAML document (version 1.* is required)"
  | repeatedHandle handle => "duplicate tag handle " ++ quoted handle
  | unknownHandle handle => "found undefined tag handle " ++ quoted handle
  | noContent found => "expected the node content, but found " ++ quoted found
  | noBlockEnd found => "expected <block end>, but found " ++ quoted found
  | noSequenceEnd found => "expected ',' or ']', but got " ++ quoted found
  | noMappingEnd found => "expected ',' or '\x7d', but got " ++ quoted found
  | anotherDocument => "but found another document"
  | unknownAlias name => "found undefined alias " ++ quoted name
  | secondAnchor => "second occurrence"
  | unknownTag tag => "could not determine a constructor for the tag " ++ quoted tag
  | noScalar found => "expected a scalar node, but found " ++ found
  | noSequence found => "expected a sequence node, but found " ++ found
  | noMapping found => "expected a mapping node, but found " ++ found
  | unhashableKey => "found unhashable key"
  | noMergeMapping found => "expected a mapping for merging, but found " ++ found
  | noMerge found => "expected a mapping or list of mappings for merging, but found " ++ found
  | noOrderedMap found => "expected a sequence, but found " ++ found
  | noSingleMapping found => "expected a mapping of length 1, but found " ++ found
  | severalItems count =>
    "expected a single mapping item, but found " ++ toString count ++ " items"
  | notAscii message => "failed to convert base64 data into ascii: " ++ message
  | notBase64 message => "failed to decode base64 data: " ++ message

/-- An error in a settings text. -/
structure Error where
  phase : Phase
  activity : Option Activity := none
  /-- Where the activity began. -/
  since : Option Mark := none
  problem : Problem
  mark : Mark
  deriving Repr, DecidableEq

/-- The message of an error in a text. The place where an activity began is left out if it is the
place of the problem. -/
def Error.message (e : Error) (source : List Char) : String :=
  match e.problem with
  | .unprintable c =>
    "unacceptable character #x" ++ String.ofList (hexAtLeast 4 c.toNat) ++ ": " ++
      e.problem.text ++ "\n  in \"" ++ textName ++ "\", position " ++ toString e.mark.index
  | problem =>
    let activity := match e.activity with
      | some a => [a.text]
      | none => []
    let since := match e.since with
      | some m =>
        if m.line == e.mark.line && m.column == e.mark.column then [] else [m.text source]
      | none => []
    "\n".intercalate (activity ++ since ++ [problem.text, e.mark.text source])

end RoleAudit.Yaml
