import ApkAudit.Number.Binary64
import ApkAudit.Number.Numeral
import ApkAudit.Text.CodePoint
import ApkAudit.Yaml.Token

/-!
From YAML text to tokens.  Indentation opens and closes blocks, and a scalar turns out to be a key
only when its colon is found: possible keys are remembered with the place of their token.
-/

namespace ApkAudit.Yaml

structure PossibleKey where
  required : Bool
  token : Nat
  index : Nat
  line : Nat
  column : Nat

structure Scanner where
  rest : List Char
  /-- More than the number of steps in which any part of the text is read. -/
  size : Nat
  index : Nat := 0
  line : Nat := 0
  column : Nat := 0
  tokens : Array Token := #[]
  indent : Int := -1
  indents : List Int := []
  flowLevel : Nat := 0
  keyAllowed : Bool := true
  /-- One place for each level of brackets and one for the block around them. -/
  keys : List (Option PossibleKey) := [none]

abbrev Scan := StateT Scanner (Except Error)

namespace Scan

def fail {α : Type} (e : Error) : Scan α := fun _ => .error e

def peek (n : Nat) : Scan (Option Char) := do
  return (← get).rest[n]?

def ahead (n : Nat) (p : Char → Bool) : Scan Bool := do
  return ((← peek n).map p).getD false

def blankAhead (n : Nat) : Scan Bool := do
  return ((← peek n).map fun c => isBlank c || isBreak c).getD true

def lineEndAhead (n : Nat) : Scan Bool := do
  return ((← peek n).map isBreak).getD true

def isAtEnd : Scan Bool := do
  return (← get).rest.isEmpty

def inFlow : Scan Bool := do
  return (← get).flowLevel ≠ 0

def skip (n : Nat) : Scan Unit :=
  modify fun s =>
    { s with rest := s.rest.drop n, index := s.index + n, column := s.column + n }

def take : Scan (List Char) := do
  let c ← peek 0
  skip 1
  return c.toList

def takeLine : Scan (List Char) := do
  let s ← get
  let (text, width) : List Char × Nat :=
    match s.rest with
    | '\r' :: '\n' :: _ => (['\n'], 2)
    | c :: _ =>
      if c = '\n' || c = '\r' || c.toNat = 0x85 then (['\n'], 1)
      else if isBreak c then ([c], 1)
      else ([], 0)
    | [] => ([], 0)
  if width ≠ 0 then
    set { s with
      rest := s.rest.drop width, index := s.index + width, column := 0, line := s.line + 1 }
  return text

def takeWhile (p : Char → Bool) : Scan (List Char) := do
  let found := (← get).rest.takeWhile p
  skip found.length
  return found

def emit (t : Token) : Scan Unit :=
  modify fun s => { s with tokens := s.tokens.push t }

def insert (place : Nat) (t : Token) : Scan Unit :=
  modify fun s => { s with tokens := s.tokens.insertIdxIfInBounds place t }

def allowKeys (allowed : Bool) : Scan Unit :=
  modify fun s => { s with keyAllowed := allowed }

def maxKeyLength : Nat := 1024

def dropStaleKeys : Scan Unit := do
  let s ← get
  let isStale (k : PossibleKey) : Bool := k.line < s.line || k.index + maxKeyLength < s.index
  if s.keys.any fun key => (key.map fun k => isStale k && k.required).getD false then
    fail .missingColon
  set { s with keys := s.keys.map (Option.filter fun k => !isStale k) }

def setKey (key : Option PossibleKey) : Scan Unit :=
  modify fun s => { s with keys := key :: s.keys.tail }

def dropKey : Scan Unit := do
  match (← get).keys with
  | some k :: _ => if k.required then fail .missingColon else setKey none
  | _ => setKey none

def saveKey : Scan Unit := do
  let s ← get
  if s.keyAllowed then
    let required := s.flowLevel = 0 && s.indent = s.column
    dropKey
    setKey (some ⟨required, s.tokens.size, s.index, s.line, s.column⟩)

def openBlock (column : Nat) (place : Option Nat) (t : Token) : Scan Unit := do
  let s ← get
  if s.flowLevel = 0 && s.indent < column then
    set { s with indents := s.indent :: s.indents, indent := column }
    match place with
    | some place => insert place t
    | none => emit t

def closeBlocks (column : Int) : Scan Unit := do
  let s ← get
  if s.flowLevel = 0 then
    let rec close (indents : List Int) (s : Scanner) : Scanner :=
      match indents with
      | [] => s
      | outer :: rest =>
        if column < s.indent then
          close rest { s with indent := outer, indents := rest, tokens := s.tokens.push .blockEnd }
        else s
    set (close s.indents s)

/-- Passes over blanks, comments and ends of lines.  A byte-order mark may stand at the start of a
line, and takes a column there. -/
def skipToToken (fuel : Nat) : Scan Unit := do
  match fuel with
  | 0 => return
  | fuel + 1 =>
    let s ← get
    if s.column = 0 && (← ahead 0 fun c => c.toNat = 0xFEFF) then skip 1
    let tabs := s.flowLevel ≠ 0 || !s.keyAllowed
    let _ ← takeWhile fun c => c = ' ' || (c = '\t' && tabs)
    if ← ahead 0 (· = '#') then
      let _ ← takeWhile fun c => !isBreak c
    if ← ahead 0 isBreak then
      let _ ← takeLine
      if !(← inFlow) then allowKeys true
      skipToToken fuel

def documentMark (c : Char) : Scan Bool := do
  let s ← get
  return s.column = 0 && s.rest.take 3 = [c, c, c] && (← blankAhead 3)

def versionNumber : Scan Nat := do
  let digits ← takeWhile Char.isDigit
  if digits.isEmpty || 9 < digits.length then fail .badDirective
  return Number.natOfDigits digits

def skipBlanks : Scan Unit := do
  let _ ← takeWhile isBlank

def tagHandle (directive : Bool) : Scan (List Char) := do
  if !(← ahead 0 (· = '!')) then fail .badTag
  skip 1
  let name ← takeWhile isNameChar
  if ← ahead 0 (· = '!') then
    skip 1
    return '!' :: name ++ ['!']
  else if directive && !name.isEmpty then fail .badTag
  else return '!' :: name

def isUriChar (verbatim : Bool) (c : Char) : Bool :=
  isNameChar c || ";/?:@&=+$.%!~*'()".toList.contains c ||
    (verbatim && (c = ',' || c = '[' || c = ']'))

def octets? (first : Nat) : Option Nat :=
  if first < 0x80 then some 1
  else if first < 0xC0 then none
  else if first < 0xE0 then some 2
  else if first < 0xF0 then some 3
  else if first < 0xF8 then some 4
  else none

/-- The bytes of a tag.  Behind percent signs each byte is given by two digits, and the bytes of one
character follow each other: `missing` of them are to come. -/
def tagBytes (missing : Nat) : List Char → Option Tag
  | '%' :: a :: b :: rest =>
    match Number.digit? 16 a, Number.digit? 16 b with
    | some x, some y =>
      let byte := 16 * x + y
      let left :=
        if missing = 0 then (octets? byte).map (· - 1)
        else if 0x80 ≤ byte && byte < 0xC0 then some (missing - 1)
        else none
      match left with
      | some left => (tagBytes left rest).map (UInt8.ofNat byte :: ·)
      | none => none
    | _, _ => none
  | cs =>
    if missing ≠ 0 then none
    else
      match cs with
      | [] => some []
      | c :: rest => if c = '%' then none else (tagBytes 0 rest).map (UInt8.ofNat c.toNat :: ·)

def tagUri (verbatim : Bool) (head : List Char) : Scan Tag := do
  let found ← takeWhile (isUriChar verbatim)
  if head.isEmpty && found.isEmpty then fail .badTag
  match tagBytes 0 (head.drop 1 ++ found) with
  | none => fail .badTag
  | some bytes => return bytes.takeWhile (· ≠ 0)

def directive : Scan Unit := do
  skip 1
  let name ← takeWhile isNameChar
  if !(← blankAhead 0) then fail .badDirective
  if name = "YAML".toList then
    skipBlanks
    let major ← versionNumber
    if !(← ahead 0 (· = '.')) then fail .badDirective
    skip 1
    let minor ← versionNumber
    emit (.version major minor)
  else if name = "TAG".toList then
    skipBlanks
    let handle ← tagHandle true
    if !(← ahead 0 isBlank) then fail .badDirective
    skipBlanks
    let start ← tagUri true []
    if !(← blankAhead 0) then fail .badDirective
    emit (.tagHandle (String.ofList handle) start)
  else fail .badDirective
  skipBlanks
  if ← ahead 0 (· = '#') then
    let _ ← takeWhile fun c => !isBreak c
  if !(← lineEndAhead 0) then fail .badDirective
  let _ ← takeLine

def anchorName : Scan String := do
  skip 1
  let name ← takeWhile isNameChar
  let ended := (← blankAhead 0) || (← ahead 0 fun c => "?:,]\x7d%@`".toList.contains c)
  if name.isEmpty || !ended then fail .badAnchor
  return String.ofList name

def bang : UInt8 := 0x21

def tag : Scan Unit := do
  let (handle, suffix) ←
    if ← ahead 1 (· = '<') then do
      skip 2
      let suffix ← tagUri true []
      if !(← ahead 0 (· = '>')) then fail .badTag
      skip 1
      pure ([], suffix)
    else do
      let handle ← tagHandle false
      if 2 ≤ handle.length && handle.getLast? = some '!' then
        pure (handle, ← tagUri false [])
      else
        let suffix ← tagUri false handle
        if suffix.isEmpty then pure ([], [bang]) else pure (['!'], suffix)
  let comma := (← inFlow) && (← ahead 0 (· = ','))
  if !comma && !(← blankAhead 0) then fail .badTag
  emit (.tag (String.ofList handle) suffix)

/-- Lines that are empty or hold spaces only, at the start of a block scalar or inside it.  The
first line with text gives the indentation of the scalar. -/
def blockBreaks (indent deepest : Nat) (breaks : List Char) (fuel : Nat) :
    Scan (Nat × List Char) := do
  match fuel with
  | 0 => fail .unterminated
  | fuel + 1 =>
    let s ← get
    let spaces := s.rest.takeWhile (· = ' ')
    skip (if indent = 0 then spaces.length else min spaces.length (indent - s.column))
    let column := (← get).column
    let deepest := max deepest column
    if (indent = 0 || column < indent) && (← ahead 0 (· = '\t')) then fail .badTab
    if ← ahead 0 isBreak then
      blockBreaks indent deepest (breaks ++ (← takeLine)) fuel
    else
      let least := max 1 (s.indent + 1).toNat
      return (if indent = 0 then max deepest least else indent, breaks)

inductive Chomping where
  | strip
  | clip
  | keep
deriving DecidableEq, Repr

def chomping? (c : Char) : Option Chomping :=
  if c = '+' then some .keep else if c = '-' then some .strip else none

def blockHeader : Scan (Chomping × Nat) := do
  let digit : Scan Nat := do
    if ← ahead 0 Char.isDigit then
      if ← ahead 0 (· = '0') then fail .badIndicator
      let d ← take
      return (Number.digit? 10 (d.headD '0')).getD 0
    else return 0
  match (← peek 0).bind chomping? with
  | some chomping =>
    skip 1
    return (chomping, ← digit)
  | none =>
    let increment ← digit
    let next ← peek 0
    let chomping := if increment = 0 then none else next.bind chomping?
    if chomping.isSome then skip 1
    return (chomping.getD .clip, increment)

def blockLines (literal : Bool) (indent : Nat) (text leading trailing : List Char)
    (leadingBlank : Bool) (fuel : Nat) : Scan (List Char × List Char × List Char) := do
  match fuel with
  | 0 => fail .unterminated
  | fuel + 1 =>
    if (← get).column ≠ indent || (← isAtEnd) then return (text, leading, trailing)
    let blank ← ahead 0 isBlank
    let folded := !literal && leading = ['\n'] && !leadingBlank && !blank
    let text :=
      if folded then (if trailing.isEmpty then ' ' :: text else text) else leading.reverse ++ text
    let text := trailing.reverse ++ text
    let line ← takeWhile fun c => !isBreak c
    let leading ← takeLine
    let (_, trailing) ← blockBreaks indent 0 [] (← get).size
    blockLines literal indent (line.reverse ++ text) leading trailing blank fuel

def blockScalar (literal : Bool) : Scan Unit := do
  skip 1
  let (chomping, increment) ← blockHeader
  skipBlanks
  if ← ahead 0 (· = '#') then
    let _ ← takeWhile fun c => !isBreak c
  if !(← lineEndAhead 0) then fail .badIndicator
  let _ ← takeLine
  let s ← get
  let given := if increment = 0 then 0 else (max s.indent 0).toNat + increment
  let (indent, trailing) ← blockBreaks given 0 [] s.size
  let (text, leading, trailing) ← blockLines literal indent [] [] trailing false s.size
  let ending :=
    match chomping with
    | .strip => []
    | .clip => leading
    | .keep => leading ++ trailing
  emit (.scalar (String.ofList (text.reverse ++ ending)) false)

structure Gap where
  blanks : List Char := []
  broken : Bool := false
  leading : List Char := []
  trailing : List Char := []

/-- The text that a gap stands for: one break is a space, more are breaks but the first. -/
def Gap.text (gap : Gap) : List Char :=
  if gap.broken then
    if gap.leading.head? = some '\n' then
      if gap.trailing.isEmpty then [' '] else gap.trailing
    else gap.leading ++ gap.trailing
  else gap.blanks

/-- Reads a gap.  Behind a break, a tab must not stand left of the indentation. -/
def takeGap (indent : Int) (gap : Gap) (fuel : Nat) : Scan Gap := do
  match fuel with
  | 0 => return gap
  | fuel + 1 =>
    if ← ahead 0 isBlank then
      if gap.broken && (← get).column < indent && (← ahead 0 (· = '\t')) then fail .badTab
      let c ← take
      takeGap indent (if gap.broken then gap else { gap with blanks := gap.blanks ++ c }) fuel
    else if ← ahead 0 isBreak then
      let line ← takeLine
      let gap :=
        if gap.broken then { gap with trailing := gap.trailing ++ line }
        else { gap with blanks := [], leading := line, broken := true }
      takeGap indent gap fuel
    else return gap

def simpleEscape? (c : Char) : Option Char :=
  [('0', 0x0), ('a', 0x7), ('b', 0x8), ('t', 0x9), ('\t', 0x9), ('n', 0xA), ('v', 0xB), ('f', 0xC),
    ('r', 0xD), ('e', 0x1B), (' ', 0x20), ('"', 0x22), ('/', 0x2F), ('\\', 0x5C), ('N', 0x85),
    ('_', 0xA0), ('L', 0x2028), ('P', 0x2029)].lookup c |>.map Char.ofNat

def escapeLength? (c : Char) : Option Nat :=
  [('x', 2), ('u', 4), ('U', 8)].lookup c

def escape : Scan Char := do
  match (← take).head? with
  | none => fail .badEscape
  | some c =>
    match simpleEscape? c, escapeLength? c with
    | some d, _ => return d
    | none, some n => do
      let digits := (← get).rest.take n
      if digits.length ≠ n || !digits.all fun d => (Number.digit? 16 d).isSome then fail .badEscape
      skip n
      match (Number.readUnsigned 16 Number.maxUInt32 digits).toOption.bind Text.charOfNat? with
      | some d => return d
      | none => fail .badEscape
    | none, none => fail .badEscape

/-- The part of a quoted scalar up to a blank, the end of a line or the closing quote, in reverse;
whether an escaped line end stands behind it. -/
def quotedPart (quote : Char) (text : List Char) (fuel : Nat) : Scan (List Char × Bool) := do
  match fuel with
  | 0 => fail .unterminated
  | fuel + 1 =>
    if ← blankAhead 0 then return (text, false)
    else if quote = '\'' && (← get).rest.take 2 = ['\'', '\''] then
      skip 2
      quotedPart quote ('\'' :: text) fuel
    else if ← ahead 0 (· = quote) then return (text, false)
    else if quote = '"' && (← ahead 0 (· = '\\')) then
      if ← ahead 1 isBreak then
        skip 1
        let _ ← takeLine
        return (text, true)
      else
        skip 1
        let c ← escape
        quotedPart quote (c :: text) fuel
    else
      let c ← take
      quotedPart quote (c ++ text) fuel

def quotedText (quote : Char) (text : List Char) (fuel : Nat) : Scan (List Char) := do
  match fuel with
  | 0 => fail .unterminated
  | fuel + 1 =>
    if (← documentMark '-') || (← documentMark '.') then fail .unexpectedToken
    if ← isAtEnd then fail .unterminated
    let size := (← get).size
    let (text, escapedBreak) ← quotedPart quote text size
    if ← ahead 0 (· = quote) then
      skip 1
      return text
    else
      let gap ← takeGap (-1) { broken := escapedBreak } size
      quotedText quote (gap.text.reverse ++ text) fuel

def quotedScalar (quote : Char) : Scan Unit := do
  skip 1
  let text ← quotedText quote [] (← get).size
  emit (.scalar (String.ofList text.reverse) false)

/-- The part of a plain scalar up to a blank or its end.  A colon ends it before a blank, and a
bracket or a comma does inside brackets, where none of them may stand right behind a colon. -/
def plainPart (flow : Bool) : List Char → Except Error (List Char)
  | [] => .ok []
  | c :: rest =>
    let isNext (p : Char → Bool) : Bool := (rest.head?.map p).getD false
    if isBlank c || isBreak c then .ok []
    else if flow && c = ':' && isNext fun d => ",?[]\x7b\x7d".toList.contains d then
      .error .unexpectedCharacter
    else if c = ':' && (rest.isEmpty || isNext fun d => isBlank d || isBreak d) then .ok []
    else if flow && ",[]\x7b\x7d".toList.contains c then .ok []
    else do return c :: (← plainPart flow rest)

def plainText (indent : Int) (text : List Char) (gap : Gap) (fuel : Nat) :
    Scan (List Char × Gap) := do
  match fuel with
  | 0 => return (text, gap)
  | fuel + 1 =>
    if (← documentMark '-') || (← documentMark '.') || (← ahead 0 (· = '#')) then
      return (text, gap)
    let s ← get
    let part ← plainPart (s.flowLevel ≠ 0) s.rest
    skip part.length
    let (text, gap) :=
      if part.isEmpty then (text, gap) else (part.reverse ++ gap.text.reverse ++ text, {})
    if !(← ahead 0 fun c => isBlank c || isBreak c) then return (text, gap)
    let gap ← takeGap indent gap s.size
    if !(← inFlow) && (← get).column < indent then return (text, gap)
    plainText indent text gap fuel

def plainScalar : Scan Unit := do
  let s ← get
  let (text, gap) ← plainText (s.indent + 1) [] {} s.size
  emit (.scalar (String.ofList text.reverse) true)
  if gap.broken then allowKeys true

def openFlow (t : Token) : Scan Unit := do
  saveKey
  modify fun s => { s with flowLevel := s.flowLevel + 1, keys := none :: s.keys }
  allowKeys true
  skip 1
  emit t

def closeFlow (t : Token) : Scan Unit := do
  dropKey
  modify fun s =>
    if s.flowLevel = 0 then s else { s with flowLevel := s.flowLevel - 1, keys := s.keys.tail }
  allowKeys false
  skip 1
  emit t

def blockIndicator (block t : Token) (keysAfter : Bool) : Scan Unit := do
  let s ← get
  if s.flowLevel = 0 then
    if !s.keyAllowed then fail .notAllowedHere
    openBlock s.column none block
  dropKey
  allowKeys keysAfter
  skip 1
  emit t

/-- A colon: behind a possible key it makes it one, otherwise the key is empty. -/
def colon : Scan Unit := do
  let s ← get
  match s.keys with
  | some k :: _ =>
    setKey none
    insert k.token .key
    openBlock k.column (some k.token) .blockMapping
    allowKeys false
  | _ =>
    if s.flowLevel = 0 then
      if !s.keyAllowed then fail .notAllowedHere
      openBlock s.column none .blockMapping
    allowKeys (s.flowLevel = 0)
  skip 1
  emit .value

def documentIndicator (t : Token) : Scan Unit := do
  closeBlocks (-1)
  dropKey
  allowKeys false
  skip 3
  emit t

def startsPlain (c : Char) : Scan Bool := do
  let flow ← inFlow
  if c = '-' then return !(← ahead 1 isBlank)
  else if c = '?' || c = ':' then return !flow && !(← blankAhead 1)
  else return !"-?:,[]\x7b\x7d#&*!|>'\"%@`".toList.contains c && !isBlank c && !isBreak c

def nextToken (c : Char) : Scan Unit := do
  let flow ← inFlow
  if c = '%' && (← get).column = 0 then
    closeBlocks (-1)
    dropKey
    allowKeys false
    directive
  else if ← documentMark '-' then documentIndicator .documentStart
  else if ← documentMark '.' then documentIndicator .documentEnd
  else if c = '[' then openFlow .openBracket
  else if c = '\x7b' then openFlow .openBrace
  else if c = ']' then closeFlow .closeBracket
  else if c = '\x7d' then closeFlow .closeBrace
  else if c = ',' then
    dropKey
    allowKeys true
    skip 1
    emit .comma
  else if c = '-' && (← blankAhead 1) then blockIndicator .blockSequence .dash true
  else if c = '?' && (flow || (← blankAhead 1)) then blockIndicator .blockMapping .key (!flow)
  else if c = ':' && (flow || (← blankAhead 1)) then colon
  else if c = '*' then
    saveKey
    allowKeys false
    emit (.alias (← anchorName))
  else if c = '&' then
    saveKey
    allowKeys false
    emit (.anchor (← anchorName))
  else if c = '!' then
    saveKey
    allowKeys false
    tag
  else if (c = '|' || c = '>') && !flow then
    dropKey
    allowKeys true
    blockScalar (c = '|')
  else if c = '\'' || c = '"' then
    saveKey
    allowKeys false
    quotedScalar c
  else if ← startsPlain c then
    saveKey
    allowKeys false
    plainScalar
  else fail .unexpectedCharacter

def allTokens (fuel : Nat) : Scan Unit := do
  match fuel with
  | 0 => return
  | fuel + 1 =>
    skipToToken (← get).size
    dropStaleKeys
    closeBlocks (← get).column
    match ← peek 0 with
    | none =>
      closeBlocks (-1)
      dropKey
    | some c =>
      nextToken c
      allTokens fuel

end Scan

def tokens (text : List Char) : Except Error (List Token) :=
  if text.all isAllowed then do
    let size := text.length + 2
    let (_, s) ← (Scan.allTokens size).run { rest := text, size := size }
    return s.tokens.toList
  else .error .controlCharacter

end ApkAudit.Yaml
