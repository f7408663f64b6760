/-!
Tokens of YAML text, its character classes, and what can be wrong with it.
-/

namespace ApkAudit.Yaml

abbrev Tag := List UInt8

inductive Token where
  | version (major minor : Nat)
  | tagHandle (handle : String) (start : Tag)
  | documentStart
  | documentEnd
  | blockSequence
  | blockMapping
  | blockEnd
  | openBracket
  | closeBracket
  | openBrace
  | closeBrace
  | dash
  | comma
  | key
  | value
  | alias (name : String)
  | anchor (name : String)
  | tag (handle : String) (suffix : Tag)
  | scalar (text : String) (isPlain : Bool)
deriving DecidableEq, Repr

inductive Error where
  | controlCharacter
  | unexpectedCharacter
  | missingColon
  | notAllowedHere
  | unterminated
  | badTab
  | badEscape
  | badIndicator
  | badDirective
  | badAnchor
  | badTag
  | unexpectedToken
  | unknownHandle (handle : String)
  | unknownAnchor (name : String)
  | recursion
  | repetition
  | severalDocuments
  | wrongType (wanted : String)
  | repeatedKey (name : String)
deriving DecidableEq, Repr

def Error.message : Error → String
  | controlCharacter => "control characters are not allowed"
  | unexpectedCharacter => "found character that cannot start any token"
  | missingColon => "could not find expected ':'"
  | notAllowedHere => "an entry is not allowed in this context"
  | unterminated => "found unexpected end of stream"
  | badTab => "found a tab character where an indentation space is expected"
  | badEscape => "found unknown escape character"
  | badIndicator => "found an invalid indicator of a block scalar"
  | badDirective => "found an invalid directive"
  | badAnchor => "did not find expected alphabetic or numeric character"
  | badTag => "did not find expected tag"
  | unexpectedToken => "did not find expected node content"
  | unknownHandle handle => s!"found undefined tag handle {handle}"
  | unknownAnchor name => s!"unknown anchor {name}"
  | recursion => "recursion limit exceeded"
  | repetition => "repetition limit exceeded"
  | severalDocuments => "there is more than one document"
  | wrongType wanted => s!"invalid type, expected {wanted}"
  | repeatedKey name => s!"duplicate field {name}"

def isBlank (c : Char) : Bool :=
  c = ' ' || c = '\t'

def isBreak (c : Char) : Bool :=
  c = '\n' || c = '\r' || c.toNat = 0x85 || c.toNat = 0x2028 || c.toNat = 0x2029

def isNameChar (c : Char) : Bool :=
  c.isAlphanum || c = '_' || c = '-'

def isAllowed (c : Char) : Bool :=
  let n := c.toNat
  n = 0x9 || n = 0xA || n = 0xD || (0x20 ≤ n && n ≤ 0x7E) || n = 0x85 ||
    (0xA0 ≤ n && n ≤ 0xFFFD) || 0x10000 ≤ n

end ApkAudit.Yaml
