import ApkAudit.Text.Lines

/-!
What can be wrong with the text of a pattern, and how it is told: the pattern, a mark under the
place, and a message.
-/

namespace ApkAudit.Pattern

structure Span where
  start : Nat
  stop : Nat
deriving DecidableEq, Repr

inductive Fault where
  | unclosedGroup
  | unopenedGroup
  | nothingToRepeat
  | unclosedCount
  | missingCount
  | disorderedCounts
  | invalidNumber
  | unclosedSet
  | disorderedRange
  | unboundedRange
  | escapeInSet
  | escapeCutOff
  | unknownEscape
  | emptyCode
  | invalidCode
  | invalidCodeDigit
  | backReference
  | lookAround
  | unknownFlag
  | duplicateFlag
  | repeatedNegation
  | danglingNegation
  | flagsCutOff
  | emptyName
  | invalidNameCharacter
  | unclosedName
  | duplicateName
  | invalidProperty
  | unclosedBoundary
  | unknownBoundary
  | boundaryCutOff
  | tooDeep (limit : Nat)
  | noUnicode
  | brokenEncoding
  | unknownProperty
  | unknownValue
deriving DecidableEq, Repr

namespace Fault

def message : Fault → String
  | unclosedGroup => "unclosed group"
  | unopenedGroup => "unopened group"
  | nothingToRepeat => "repetition operator missing expression"
  | unclosedCount => "unclosed counted repetition"
  | missingCount => "repetition quantifier expects a valid decimal"
  | disorderedCounts => "invalid repetition count range, the start must be <= the end"
  | invalidNumber => "decimal literal invalid"
  | unclosedSet => "unclosed character class"
  | disorderedRange => "invalid character class range, the start must be <= the end"
  | unboundedRange => "invalid range boundary, must be a literal"
  | escapeInSet => "invalid escape sequence found in character class"
  | escapeCutOff => "incomplete escape sequence, reached end of pattern prematurely"
  | unknownEscape => "unrecognized escape sequence"
  | emptyCode => "hexadecimal literal empty"
  | invalidCode => "hexadecimal literal is not a Unicode scalar value"
  | invalidCodeDigit => "invalid hexadecimal digit"
  | backReference => "backreferences are not supported"
  | lookAround => "look-around, including look-ahead and look-behind, is not supported"
  | unknownFlag => "unrecognized flag"
  | duplicateFlag => "duplicate flag"
  | repeatedNegation => "flag negation operator repeated"
  | danglingNegation => "dangling flag negation operator"
  | flagsCutOff => "expected flag but got end of regex"
  | emptyName => "empty capture group name"
  | invalidNameCharacter => "invalid capture group character"
  | unclosedName => "unclosed capture group name"
  | duplicateName => "duplicate capture group name"
  | invalidProperty => "invalid Unicode character class"
  | unclosedBoundary =>
    "special word boundary assertion is either unclosed or contains an invalid character"
  | unknownBoundary => "unrecognized special word boundary assertion, " ++
    "valid choices are: start, end, start-half or end-half"
  | boundaryCutOff => "found either the beginning of a special word boundary or a bounded " ++
    "repetition on a \\b with an opening brace, but no closing brace"
  | tooDeep limit =>
    s!"exceed the maximum number of nested parentheses/brackets ({limit})"
  | noUnicode => "Unicode not allowed here"
  | brokenEncoding => "pattern can match invalid UTF-8"
  | unknownProperty => "Unicode property not found"
  | unknownValue => "Unicode property value not found"

end Fault

structure Error where
  fault : Fault
  span : Span
  earlier : Option Span := none
deriving DecidableEq, Repr

namespace Error

def position (pattern : List Char) (place : Nat) : Nat × Nat :=
  let before := pattern.take place
  (before.count '\n' + 1, (before.reverse.takeWhile (· ≠ '\n')).length + 1)

def marks : Nat → List (Nat × Nat) → List Char
  | _, [] => []
  | done, (first, last) :: rest =>
    let gap := first - 1 - done
    let width := max 1 (last - first)
    List.replicate gap ' ' ++ List.replicate width '^' ++ marks (done + gap + width) rest

def spans (e : Error) : List Span :=
  match e.earlier with
  | none => [e.span]
  | some earlier =>
    if earlier.start < e.span.start || (earlier.start = e.span.start && earlier.stop ≤ e.span.stop)
    then [earlier, e.span] else [e.span, earlier]

def isOneLine (pattern : List Char) (s : Span) : Bool :=
  (position pattern s.start).1 == (position pattern s.stop).1

def columnsOn (e : Error) (pattern : List Char) (line : Nat) : List (Nat × Nat) :=
  (e.spans.filter fun s => isOneLine pattern s && (position pattern s.start).1 == line).map fun s =>
    ((position pattern s.start).2, (position pattern s.stop).2)

def lineNumber (width line : Nat) : List Char :=
  let digits := (toString line).toList
  List.replicate (width - digits.length) ' ' ++ digits

def noted (e : Error) (pattern : List Char) (label : Nat → List Char) : List String :=
  ((Text.lines pattern).zipIdx 1).flatMap fun (line, n) =>
    let columns := e.columnsOn pattern n
    String.ofList (label n ++ line) ::
      if columns.isEmpty then []
      else [String.ofList (List.replicate (label n).length ' ' ++ marks 0 columns)]

def longNotes (e : Error) (pattern : List Char) : List String :=
  (e.spans.filter fun s => !isOneLine pattern s).map fun s =>
    let (line, column) := position pattern s.start
    let (lastLine, after) := position pattern s.stop
    let lastColumn := after - 1
    s!"on line {line} (column {column}) through line {lastLine} (column {lastColumn})"

def report (e : Error) (pattern : List Char) : List String :=
  let last := "error: " ++ e.fault.message
  if pattern.contains '\n' then
    let width := (toString (position pattern pattern.length).1).length
    let divider := String.ofList (List.replicate 79 '~')
    let noted := e.noted pattern fun n => lineNumber width n ++ [':', ' ']
    ["regex parse error:", divider] ++ noted ++ [divider] ++ e.longNotes pattern ++ [last]
  else "regex parse error:" :: (e.noted pattern fun _ => [' ', ' ', ' ', ' ']) ++ [last]

end Error

end ApkAudit.Pattern
