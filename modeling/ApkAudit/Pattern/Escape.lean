import ApkAudit.Pattern.Cursor
import ApkAudit.Pattern.Expression
import ApkAudit.Text.CodePoint

/-!
What a backslash begins in a pattern.
-/

namespace ApkAudit.Pattern

def fail {α : Type} (fault : Fault) (span : Span) : Except Error α :=
  .error { fault := fault, span := span }

def hexDigit? (c : Char) : Option Nat :=
  if '0' ≤ c && c ≤ '9' then some (c.toNat - 0x30)
  else if 'a' ≤ c && c ≤ 'f' then some (c.toNat - 0x57)
  else if 'A' ≤ c && c ≤ 'F' then some (c.toNat - 0x37)
  else none

def charOfHex? (digits : List Char) : Option Char :=
  Text.charOfNat? ((digits.filterMap hexDigit?).foldl (fun n d => 16 * n + d) 0)

namespace Cursor

def hexDigits (s : Cursor) : Nat → Except Error (List Char × Cursor)
  | 0 => .ok ([], s)
  | n + 1 =>
    match s.rest with
    | [] => fail .escapeCutOff s.here
    | c :: _ =>
      if (hexDigit? c).isSome then do
        let (digits, s) ← hexDigits s.next n
        return (c :: digits, s)
      else fail .invalidCodeDigit s.charSpan

def hexLiteral (s : Cursor) (start width : Nat) : Except Error (Literal × Cursor) := do
  match s.rest with
  | [] => fail .escapeCutOff s.here
  | '\x7b' :: _ =>
    let (digits, after) := s.next.take fun c => (hexDigit? c).isSome
    match after.rest with
    | [] => fail .escapeCutOff (after.since s.place)
    | '\x7d' :: _ =>
      let done := after.next
      if digits.isEmpty then fail .emptyCode (done.since s.place)
      else
        match charOfHex? digits with
        | some c => return ({ span := done.since start, char := c }, done)
        | none => fail .invalidCode (after.since (s.place + 1))
    | _ => fail .invalidCodeDigit after.charSpan
  | _ =>
    let (digits, done) ← s.hexDigits width
    match charOfHex? digits with
    | some c => return ({ span := done.since start, char := c, isByte := width == 2 }, done)
    | none => fail .invalidCode (done.since s.place)

def propertyName (text : List Char) : PropertyName × Bool :=
  match Text.breakOn? ['!', '='] text with
  | some (name, value) => (.valued name value, true)
  | none =>
    match Text.breakOn? [':'] text with
    | some (name, value) => (.valued name value, false)
    | none =>
      match Text.breakOn? ['='] text with
      | some (name, value) => (.valued name value, false)
      | none => (.plain text, false)

def property (s : Cursor) (start : Nat) (isNegated : Bool) :
    Except Error (SetExpression × Cursor) := do
  match s.rest with
  | [] => fail .escapeCutOff s.here
  | '\x7b' :: _ =>
    let (text, after) := s.next.take (· ≠ '\x7d')
    if after.rest.isEmpty then fail .escapeCutOff after.here
    else
      let (name, differs) := propertyName text
      let done := after.bump
      return (.named (done.since start) (.property name) (isNegated != differs), done)
  | '\\' :: _ => fail .invalidProperty s.charSpan
  | c :: _ =>
    let done := s.next
    return (.named (done.since start) (.property (.plain [c])) isNegated, done)

def wordEdge? : String → Option WordEdge
  | "start" => some .start
  | "end" => some .stop
  | "start-half" => some .startHalf
  | "end-half" => some .stopHalf
  | _ => none

def boundary (s : Cursor) (start : Nat) : Except Error (Expression × Cursor) := do
  let either : Expression := .anchor (s.since start) (.word .either)
  match s.rest with
  | '\x7b' :: _ =>
    let inner := s.next
    let isPart := fun (c : Char) => c.isAlpha || c == '-'
    match inner.rest with
    | [] => fail .boundaryCutOff (inner.since start)
    | c :: _ =>
      if !isPart c then return (either, s)
      else
        let (name, after) := inner.take isPart
        match after.rest with
        | '\x7d' :: _ =>
          match wordEdge? (String.ofList name) with
          | some edge =>
            let done := after.bump
            return (.anchor (done.since start) (.word edge), done)
          | none => fail .unknownBoundary (after.since inner.place)
        | _ => fail .unclosedBoundary (after.since s.place)
  | _ => return (either, s)

def isSign (c : Char) : Bool :=
  ['\\', '.', '+', '*', '?', '(', ')', '|', '[', ']', '\x7b', '\x7d', '^', '$', '#', '&', '-',
    '~'].contains c

def isEscapable (c : Char) : Bool :=
  isSign c || (c.toNat < 0x80 && !c.isAlphanum && c != '<' && c != '>')

def control? : Char → Option Char
  | 'a' => some '\x07'
  | 'f' => some '\x0c'
  | 't' => some '\t'
  | 'n' => some '\n'
  | 'r' => some '\r'
  | 'v' => some '\x0b'
  | _ => none

def anchor? : Char → Option Anchor
  | 'A' => some .textStart
  | 'z' => some .textEnd
  | 'B' => some (.word .neither)
  | '<' => some (.word .start)
  | '>' => some (.word .stop)
  | _ => none

def namedSet? : Char → Option (NamedSet × Bool)
  | 'd' => some (.digit, false)
  | 's' => some (.blank, false)
  | 'w' => some (.word, false)
  | 'D' => some (.digit, true)
  | 'S' => some (.blank, true)
  | 'W' => some (.word, true)
  | _ => none

def hexWidth? : Char → Option Nat
  | 'x' => some 2
  | 'u' => some 4
  | 'U' => some 8
  | _ => none

def escape (s : Cursor) : Except Error (Expression × Cursor) := do
  let start := s.place
  let s := s.bump
  match s.rest with
  | [] => fail .escapeCutOff (s.since start)
  | c :: _ =>
    let done := s.bump
    if c.isDigit then fail .backReference (done.since start)
    else if let some width := hexWidth? c then
      let (literal, done) ← s.next.hexLiteral start width
      return (.literal literal, done)
    else if c == 'p' || c == 'P' then
      let (set, done) ← s.next.property start (c == 'P')
      return (.set set, done)
    else if let some (set, isNegated) := namedSet? c then
      return (.set (.named (done.since start) set isNegated), done)
    else if isEscapable c then
      return (.literal { span := done.since start, char := c }, done)
    else if let some c := control? c then
      return (.literal { span := done.since start, char := c }, done)
    else if let some a := anchor? c then
      return (.anchor (done.since start) a, done)
    else if c == 'b' then done.boundary start
    else fail .unknownEscape (done.since start)

end Cursor

end ApkAudit.Pattern
