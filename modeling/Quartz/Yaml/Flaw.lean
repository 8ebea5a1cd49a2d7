import Quartz.Text.Bytes

/-!
# `Quartz.Yaml.Flaw`: what can be wrong with a YAML text

Flaws come from three layers. A text may not be readable as characters, its
characters may not make tokens, and its tokens may not make a document. Each
flaw has one wording, and a problem is a flaw with the line to report.
-/

set_option autoImplicit false

namespace Quartz.Yaml

/-- A place in a text. Everything is counted from zero, in characters. -/
structure Mark where
  index : Nat := 0
  line : Nat := 0
  column : Nat := 0
  deriving DecidableEq, Repr

/-- The deepest nesting of brackets or of indents. -/
def maxDepth : Nat := 10000

/-- Ways in which a text is no document. -/
inductive Flaw where
  | leadingOctet
  | incompleteOctets
  | trailingOctet
  | overlong
  | noCharacter
  | halfUnit
  | unpairedSurrogate
  | halfPair
  | missingSurrogate
  | control
  | missingColon
  | noToken
  | misplacedItem
  | misplacedKey
  | misplacedValue
  | documentInQuotes
  | endInQuotes
  | unknownEscape
  | noHexDigits
  | escapedNoCharacter
  | indentOfZero
  | textBehindHeader
  | tabInBlock
  | tabInPlain
  | anchorName
  | tagUnclosed
  | tagMark
  | tagSuffix
  | tagEnd
  | uriOctet
  | uriLeadingOctet
  | uriTrailingOctet
  | noDirective
  | directiveEnd
  | unknownDirective
  | versionPoint
  | versionLong
  | noVersion
  | noBlankInDirective
  | tooDeep
  | noContent
  | noKey
  | noItem
  | openSequence
  | openMapping
  | noDocumentStart
  | wrongVersion
  | secondVersion
  | secondHandle
  | unknownHandle
  | unknownAnchor (name : Bytes)
  deriving DecidableEq, Repr

/-- The wording of a flaw. -/
def Flaw.message : Flaw → Bytes
  | .leadingOctet => utf8 "invalid leading UTF-8 octet"
  | .incompleteOctets => utf8 "incomplete UTF-8 octet sequence"
  | .trailingOctet => utf8 "invalid trailing UTF-8 octet"
  | .overlong => utf8 "invalid length of a UTF-8 sequence"
  | .noCharacter => utf8 "invalid Unicode character"
  | .halfUnit => utf8 "incomplete UTF-16 character"
  | .unpairedSurrogate => utf8 "unexpected low surrogate area"
  | .halfPair => utf8 "incomplete UTF-16 surrogate pair"
  | .missingSurrogate => utf8 "expected low surrogate area"
  | .control => utf8 "control characters are not allowed"
  | .missingColon => utf8 "could not find expected ':'"
  | .noToken => utf8 "found character that cannot start any token"
  | .misplacedItem => utf8 "block sequence entries are not allowed in this context"
  | .misplacedKey => utf8 "mapping keys are not allowed in this context"
  | .misplacedValue => utf8 "mapping values are not allowed in this context"
  | .documentInQuotes => utf8 "found unexpected document indicator"
  | .endInQuotes => utf8 "found unexpected end of stream"
  | .unknownEscape => utf8 "found unknown escape character"
  | .noHexDigits => utf8 "did not find expected hexdecimal number"
  | .escapedNoCharacter => utf8 "found invalid Unicode character escape code"
  | .indentOfZero => utf8 "found an indentation indicator equal to 0"
  | .textBehindHeader => utf8 "did not find expected comment or line break"
  | .tabInBlock => utf8 "found a tab character where an indentation space is expected"
  | .tabInPlain => utf8 "found a tab character that violates indentation"
  | .anchorName => utf8 "did not find expected alphabetic or numeric character"
  | .tagUnclosed => utf8 "did not find the expected '>'"
  | .tagMark => utf8 "did not find expected '!'"
  | .tagSuffix => utf8 "did not find expected tag URI"
  | .tagEnd => utf8 "did not find expected whitespace or line break"
  | .uriOctet => utf8 "did not find URI escaped octet"
  | .uriLeadingOctet => utf8 "found an incorrect leading UTF-8 octet"
  | .uriTrailingOctet => utf8 "found an incorrect trailing UTF-8 octet"
  | .noDirective => utf8 "could not find expected directive name"
  | .directiveEnd => utf8 "found unexpected non-alphabetical character"
  | .unknownDirective => utf8 "found unknown directive name"
  | .versionPoint => utf8 "did not find expected digit or '.' character"
  | .versionLong => utf8 "found extremely long version number"
  | .noVersion => utf8 "did not find expected version number"
  | .noBlankInDirective => utf8 "did not find expected whitespace"
  | .tooDeep => utf8 "exceeded max depth of " ++ Bytes.ofNat maxDepth
  | .noContent => utf8 "did not find expected node content"
  | .noKey => utf8 "did not find expected key"
  | .noItem => utf8 "did not find expected '-' indicator"
  | .openSequence => utf8 "did not find expected ',' or ']'"
  | .openMapping => utf8 "did not find expected ',' or '\x7d'"
  | .noDocumentStart => utf8 "did not find expected <document start>"
  | .wrongVersion => utf8 "found incompatible YAML document"
  | .secondVersion => utf8 "found duplicate %YAML directive"
  | .secondHandle => utf8 "found duplicate %TAG directive"
  | .unknownHandle => utf8 "found undefined tag handle"
  | .unknownAnchor name => utf8 "unknown anchor '" ++ name ++ utf8 "' referenced"

/-- A flaw, the line to report, and how many characters of the text have to
be known to find it. Line zero is not reported. -/
structure Problem where
  flaw : Flaw
  line : Nat := 0
  reach : Nat := 0
  deriving DecidableEq, Repr

namespace Problem

/-- The line of the first of two marks that is not on the first line, as an
index. -/
def lineIndex (start found : Mark) : Nat := if start.line ≠ 0 then start.line else found.line

/-- A flaw inside a token, with the mark where the token starts and the one
where the flaw shows. Lines are counted from one; the first one goes without
saying. -/
def inToken (flaw : Flaw) (start found : Mark) : Problem :=
  let line := lineIndex start found
  ⟨flaw, if line = 0 then 0 else line + 1, found.index + 1⟩

/-- A flaw in the order of tokens, with the mark where the node starts and
the one of the token that does not fit. The line is the one before, since a
node counts as ended there. -/
def amongTokens (flaw : Flaw) (start found : Mark) : Problem :=
  ⟨flaw, lineIndex start found, found.index + 1⟩

/-- The problem, if it takes more characters to find it. -/
def reaching (p : Problem) (more : Nat) : Problem := { p with reach := p.reach + more }

/-- The wording of a problem. -/
def message (p : Problem) : Bytes :=
  let place := if p.line = 0 then [] else utf8 "line " ++ Bytes.ofNat p.line ++ utf8 ": "
  utf8 "yaml: " ++ place ++ p.flaw.message

end Problem

end Quartz.Yaml
