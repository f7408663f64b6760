import ApkAudit.Number.Numeral
import ApkAudit.Text.CodePoint

/-!
Tokens of TOML documents: marks, bare words, and strings with their escapes resolved.  The reader
takes one character at a time.
-/

namespace ApkAudit.Toml

inductive Error where
  | unexpectedCharacter (c : Char)
  | badEscape
  | unterminatedString
  | unexpectedToken
  | badNumber
  | badMoment
  | mixedArray
  | notTable (key : String)
  | duplicateTable (path : List String)
  | tableBeforeArray (path : List String)
deriving DecidableEq, Repr

def Error.message : Error → String
  | unexpectedCharacter c => s!"unexpected character found: {c}"
  | badEscape => "invalid escape in a string"
  | unterminatedString => "unterminated string"
  | unexpectedToken => "unexpected token"
  | badNumber => "invalid number"
  | badMoment => "invalid date"
  | mixedArray => "mixed types in an array"
  | notTable key => s!"dotted key in something that is not a table: {key}"
  | duplicateTable path => "redefinition of table " ++ String.intercalate "." path
  | tableBeforeArray path => "table redefined as array: " ++ String.intercalate "." path

inductive Token where
  | newline
  | blank (c : Char)
  | comment
  | equals
  | period
  | comma
  | colon
  | plus
  | openBrace
  | closeBrace
  | openBracket
  | closeBracket
  | bare (word : List Char)
  | quoted (text : List Char) (multiline : Bool)
deriving DecidableEq, Repr

namespace Token

def isBare (c : Char) : Bool :=
  c.isAlphanum || c == '-' || c == '_'

def isBlank (c : Char) : Bool :=
  c == ' ' || c == '\t'

def mark? : Char → Option Token
  | '\n' => some newline
  | '=' => some equals
  | '.' => some period
  | ',' => some comma
  | ':' => some colon
  | '+' => some plus
  | '\x7b' => some openBrace
  | '\x7d' => some closeBrace
  | '[' => some openBracket
  | ']' => some closeBracket
  | _ => none

/-- A string that is being read: its delimiter, whether it may span lines, and the characters so
far, the last one first.  It is altered if it differs from the text of the document: by an escape,
or by a carriage return that is left out. -/
structure Open where
  delimiter : Char
  multiline : Bool
  reversed : List Char := []
  fresh : Bool := true
  altered : Bool := false

namespace Open

def push (c : Char) (s : Open) : Open :=
  { s with reversed := c :: s.reversed, fresh := false }

def pushAltered (c : Char) (s : Open) : Open :=
  { s.push c with altered := true }

/-- Two delimiters inside a string, which count as one in an altered string. -/
def pushTwo (s : Open) : Open :=
  if s.altered then s.push s.delimiter else (s.push s.delimiter).push s.delimiter

def close (s : Open) : Token :=
  quoted s.reversed.reverse s.multiline

def allows (s : Open) (c : Char) : Bool :=
  (c == '\t' && s.delimiter == '\'') || (' ' ≤ c && c != '\x7f')

end Open

inductive Mode where
  | between
  | bare (reversed : List Char)
  | comment
  | opening (delimiter : Char) (twice : Bool)
  | inside (s : Open)
  | closing (s : Open) (twice : Bool)
  | escape (s : Open)
  | hex (s : Open) (left value : Nat)
  /-- After a backslash and blanks, before the end of the line. -/
  | lineEnd (s : Open)
  /-- After a backslash at the end of a line, before the next visible character. -/
  | skipping (s : Open)

def between (c : Char) : Except Error (List Token × Mode) :=
  match mark? c with
  | some token => .ok ([token], .between)
  | none =>
    if isBlank c then .ok ([blank c], .between)
    else if c = '#' then .ok ([], .comment)
    else if c = '"' ∨ c = '\'' then .ok ([], .opening c false)
    else if isBare c then .ok ([], .bare [c])
    else .error (.unexpectedCharacter c)

/-- A line break inside a string, with a carriage return in it or without.  One right after the
opening of a string is dropped. -/
def Open.breakLine (s : Open) (returned : Bool) : Open :=
  if s.fresh then { s with fresh := false }
  else if returned then s.pushAltered '\n'
  else s.push '\n'

def inside (s : Open) (c : Char) (returned : Bool) : Except Error (List Token × Mode) :=
  if c = s.delimiter then
    .ok (if s.multiline then ([], .closing s false) else ([s.close], .between))
  else if c = '\n' then
    if !s.multiline then .error (.unexpectedCharacter c)
    else .ok ([], .inside (s.breakLine returned))
  else if c = '\\' ∧ s.delimiter = '"' then .ok ([], .escape s)
  else if s.allows c then .ok ([], .inside (s.push c))
  else .error (.unexpectedCharacter c)

def escaped (s : Open) (c : Char) : Except Error (List Token × Mode) :=
  let simple (value : Char) : Except Error (List Token × Mode) :=
    .ok ([], .inside (s.pushAltered value))
  let next : Open := { s with fresh := false, altered := true }
  match c with
  | '"' => simple '"'
  | '\\' => simple '\\'
  | 'b' => simple '\x08'
  | 't' => simple '\t'
  | 'n' => simple '\n'
  | 'f' => simple '\x0c'
  | 'r' => simple '\r'
  | 'u' => .ok ([], .hex s 4 0)
  | 'U' => .ok ([], .hex s 8 0)
  | _ =>
    if !s.multiline then .error .badEscape
    else if c = '\n' then .ok ([], .skipping next)
    else if isBlank c then .ok ([], .lineEnd next)
    else .error .badEscape

def hexDigit (s : Open) (left value : Nat) (c : Char) : Except Error (List Token × Mode) :=
  match Number.digit? 16 c with
  | none => .error .badEscape
  | some d =>
    let value := value * 16 + d
    if 1 < left then .ok ([], .hex s (left - 1) value)
    else
      match Text.charOfNat? value with
      | some c => .ok ([], .inside (s.pushAltered c))
      | none => .error .badEscape

def step (mode : Mode) (c : Char) (returned : Bool) : Except Error (List Token × Mode) :=
  match mode with
  | .between => between c
  | .bare reversed =>
    if isBare c then .ok ([], .bare (c :: reversed))
    else do
      let (tokens, next) ← between c
      return (bare reversed.reverse :: tokens, next)
  | .comment =>
    if c = '\t' ∨ ' ' ≤ c then .ok ([], .comment)
    else do
      let (tokens, next) ← between c
      return (comment :: tokens, next)
  | .opening delimiter false =>
    if c = delimiter then .ok ([], .opening delimiter true)
    else inside { delimiter := delimiter, multiline := false } c returned
  | .opening delimiter true =>
    if c = delimiter then .ok ([], .inside { delimiter := delimiter, multiline := true })
    else do
      let (tokens, next) ← between c
      return (quoted [] false :: tokens, next)
  | .inside s => inside s c returned
  | .closing s false =>
    if c = s.delimiter then .ok ([], .closing s true) else inside (s.push s.delimiter) c returned
  | .closing s true =>
    if c = s.delimiter then .ok ([s.close], .between) else inside s.pushTwo c returned
  | .escape s => escaped s c
  | .hex s left value => hexDigit s left value c
  | .lineEnd s =>
    if isBlank c then .ok ([], mode)
    else if c = '\n' then .ok ([], .skipping s)
    else .error .badEscape
  | .skipping s => if isBlank c ∨ c = '\n' then .ok ([], mode) else inside s c returned

def finish : Mode → Except Error (List Token)
  | .between => .ok []
  | .bare reversed => .ok [bare reversed.reverse]
  | .comment => .ok [comment]
  | .opening _ true => .ok [quoted [] false]
  | _ => .error .unterminatedString

def scan (mode : Mode) : List Char → Except Error (List Token)
  | [] => finish mode
  | '\r' :: '\n' :: rest => do
    let (tokens, mode) ← step mode '\n' true
    return tokens ++ (← scan mode rest)
  | c :: rest => do
    let (tokens, mode) ← step mode c false
    return tokens ++ (← scan mode rest)

def tokens (text : String) : Except Error (List Token) :=
  match text.toList with
  | '\ufeff' :: rest => scan .between rest
  | cs => scan .between cs

end Token

end ApkAudit.Toml
