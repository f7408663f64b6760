import ApkAudit.Xml.Character
import ApkAudit.Xml.Error

/-!
Tokens of an XML document, and the machine that finds them character by character.
-/

namespace ApkAudit.Xml

inductive Token where
  | char (c : Char)
  | openStart
  | closeStart
  | tagEnd
  | emptyTagEnd
  | instructionStart
  | instructionEnd
  | doctypeStart
  | markupStart
  | commentStart
  | commentEnd
  | cdataStart
  | cdataEnd
  | equals
  | quote (c : Char)
  | referenceStart
  | referenceEnd
deriving DecidableEq, Repr

def Token.spelling : Token → List Char
  | char c => [c]
  | openStart => ['<']
  | closeStart => ['<', '/']
  | tagEnd => ['>']
  | emptyTagEnd => ['/', '>']
  | instructionStart => ['<', '?']
  | instructionEnd => ['?', '>']
  | doctypeStart => "<!DOCTYPE".toList
  | markupStart => ['<', '!']
  | commentStart => "<!--".toList
  | commentEnd => "-->".toList
  | cdataStart => "<![CDATA[".toList
  | cdataEnd => "]]>".toList
  | equals => ['=']
  | quote c => [c]
  | referenceStart => ['&']
  | referenceEnd => [';']

inductive Lexer.Mode where
  | between
  | less
  | lessBang
  | lessBangDash
  | cdataWord (rest : List Char)
  | doctypeWord (rest : List Char)
  | slash
  | bracket
  | brackets
  | comment
  | commentDash
  | commentDashes
  | cdata
  | cdataBracket
  | cdataBrackets
  | instruction
  | instructionMark
  | markup
  | markupQuote (quote : Char)
deriving DecidableEq, Repr

/-- The machine: what it has seen of a token, and whether a document type has begun and not ended.
In a document type fewer characters have a meaning, and declarations are allowed. -/
structure Lexer where
  mode : Lexer.Mode := .between
  inDoctype : Bool := false
deriving DecidableEq, Repr

namespace Lexer

variable (l : Lexer)

def moveTo (mode : Mode) (tokens : List Token) : Lexer × List Token :=
  ({ l with mode := mode }, tokens)

def refuse (seen : String) (c : Char) : Except Error (Lexer × List Token) :=
  .error (.unexpected (seen.push c))

def plainStep (c : Char) : Lexer × List Token :=
  match c with
  | '<' => l.moveTo .less []
  | '>' => l.moveTo .between [.tagEnd]
  | '/' => l.moveTo .slash []
  | ']' => l.moveTo .bracket []
  | '=' => l.moveTo .between [.equals]
  | '"' => l.moveTo .between [.quote '"']
  | '\'' => l.moveTo .between [.quote '\'']
  | '&' => l.moveTo .between [.referenceStart]
  | ';' => l.moveTo .between [.referenceEnd]
  | c => l.moveTo .between [.char c]

/-- A character outside of any longer token in a document type, which the first `>` ends. -/
def doctypeStep (c : Char) : Lexer × List Token :=
  match c with
  | '<' => l.moveTo .less []
  | '>' => ({ mode := .between, inDoctype := false }, [.tagEnd])
  | '"' => l.moveTo .between [.quote '"']
  | '\'' => l.moveTo .between [.quote '\'']
  | '&' => l.moveTo .between [.referenceStart]
  | ';' => l.moveTo .between [.referenceEnd]
  | c => l.moveTo .between [.char c]

def betweenStep (c : Char) : Lexer × List Token :=
  if l.inDoctype then l.doctypeStep c else l.plainStep c

def betweenAfter (before : List Token) (c : Char) : Lexer × List Token :=
  let (next, tokens) := l.betweenStep c
  (next, before ++ tokens)

def lessStep (c : Char) : Except Error (Lexer × List Token) :=
  match c with
  | '?' => .ok (l.moveTo .instruction [.instructionStart])
  | '/' => .ok (l.moveTo .between [.closeStart])
  | '!' => .ok (l.moveTo .lessBang [])
  | c =>
    if isSpace c || isNameChar c then .ok (l.betweenAfter [.openStart] c) else refuse "<" c

def lessBangStep (c : Char) : Except Error (Lexer × List Token) :=
  match c with
  | '-' => .ok (l.moveTo .lessBangDash [])
  | '[' => .ok (l.moveTo (.cdataWord "CDATA[".toList) [])
  | 'D' => .ok (l.moveTo (.doctypeWord "OCTYPE".toList) [])
  | 'E' | 'A' | 'N' =>
    if l.inDoctype then .ok (l.moveTo .markup [.markupStart, .char c]) else refuse "<!" c
  | c => refuse "<!" c

def markupStep (c : Char) : Except Error (Lexer × List Token) :=
  match c with
  | '<' => refuse "<!" c
  | '>' => .ok (l.moveTo .between [.tagEnd])
  | '&' => .ok (l.moveTo .markup [.referenceStart])
  | ';' => .ok (l.moveTo .markup [.referenceEnd])
  | '"' => .ok (l.moveTo (.markupQuote '"') [.quote '"'])
  | '\'' => .ok (l.moveTo (.markupQuote '\'') [.quote '\''])
  | c => .ok (l.moveTo .markup [.char c])

def instructionStep (c : Char) : Lexer × List Token :=
  match c with
  | '?' => l.moveTo .instructionMark []
  | '<' => l.moveTo .instruction [.openStart]
  | '>' => l.moveTo .instruction [.tagEnd]
  | '=' => l.moveTo .instruction [.equals]
  | '"' => l.moveTo .instruction [.quote '"']
  | '\'' => l.moveTo .instruction [.quote '\'']
  | '&' => l.moveTo .instruction [.referenceStart]
  | ';' => l.moveTo .instruction [.referenceEnd]
  | c => l.moveTo .instruction [.char c]

def step (c : Char) : Except Error (Lexer × List Token) :=
  match l.mode with
  | .between => .ok (l.betweenStep c)
  | .less => l.lessStep c
  | .lessBang => l.lessBangStep c
  | .lessBangDash =>
    if c = '-' then .ok (l.moveTo .comment [.commentStart]) else refuse "<!-" c
  | .cdataWord [d] =>
    if c = d then .ok (l.moveTo .cdata [.cdataStart]) else refuse "<![" c
  | .cdataWord rest =>
    if rest.head? = some c then .ok (l.moveTo (.cdataWord rest.tail) []) else refuse "<![" c
  | .doctypeWord [d] =>
    if c = d then .ok ({ mode := .between, inDoctype := true }, [.doctypeStart])
    else refuse "<!D" c
  | .doctypeWord rest =>
    if rest.head? = some c then .ok (l.moveTo (.doctypeWord rest.tail) []) else refuse "<!D" c
  | .slash =>
    if c = '>' then .ok (l.moveTo .between [.emptyTagEnd])
    else .ok (l.betweenAfter [.char '/'] c)
  | .bracket =>
    if c = ']' then .ok (l.moveTo .brackets []) else .ok (l.betweenAfter [.char ']'] c)
  | .brackets =>
    if c = '>' then .ok (l.moveTo .between [.cdataEnd])
    else if c = ']' then .ok (l.moveTo .brackets [.char ']'])
    else .ok (l.betweenAfter [.char ']', .char ']'] c)
  | .comment =>
    if c = '-' then .ok (l.moveTo .commentDash []) else .ok (l.moveTo .comment [.char c])
  | .commentDash =>
    if c = '-' then .ok (l.moveTo .commentDashes [])
    else .ok (l.moveTo .comment [.char '-', .char c])
  | .commentDashes =>
    if c = '>' then .ok (l.moveTo .between [.commentEnd]) else refuse "--" c
  | .cdata =>
    if c = ']' then .ok (l.moveTo .cdataBracket []) else .ok (l.moveTo .cdata [.char c])
  | .cdataBracket =>
    if c = ']' then .ok (l.moveTo .cdataBrackets [])
    else .ok (l.moveTo .cdata [.char ']', .char c])
  | .cdataBrackets =>
    if c = '>' then .ok (l.moveTo .between [.cdataEnd])
    else if c = ']' then .ok (l.moveTo .cdataBrackets [.char ']'])
    else .ok (l.moveTo .cdata [.char ']', .char ']', .char c])
  | .instruction => .ok (l.instructionStep c)
  | .instructionMark =>
    if c = '>' then .ok (l.moveTo .between [.instructionEnd])
    else
      let (next, tokens) := l.instructionStep c
      .ok (next, .char '?' :: tokens)
  | .markup => l.markupStep c
  | .markupQuote q =>
    if c = q then .ok (l.moveTo .markup [.quote c]) else .ok (l.moveTo (.markupQuote q) [.char c])

end Lexer

end ApkAudit.Xml
