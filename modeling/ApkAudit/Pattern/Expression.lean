import ApkAudit.Pattern.Basic
import ApkAudit.Pattern.Error
import ApkAudit.Pattern.Property

/-!
Patterns as they are written: the parts of the text, each with its place.
-/

namespace ApkAudit.Pattern

inductive Flag where
  | ignoreCase
  | multiLine
  | dotAll
  | swapGreed
  | unicode
  | returns
  | loose
deriving DecidableEq, Repr

def Flag.ofChar? : Char → Option Flag
  | 'i' => some ignoreCase
  | 'm' => some multiLine
  | 's' => some dotAll
  | 'U' => some swapGreed
  | 'u' => some unicode
  | 'R' => some returns
  | 'x' => some loose
  | _ => none

/-- A flag that is set or, after the sign of negation, taken away; none is the sign itself. -/
abbrev FlagItem := Option Flag

def flagState? (flag : Flag) : Bool → List FlagItem → Option Bool
  | _, [] => none
  | _, none :: items => flagState? flag false items
  | value, some f :: items => if f = flag then some value else flagState? flag value items

/-- A character, and whether it was written as a byte with two digits. -/
structure Literal where
  span : Span
  char : Char
  isByte : Bool := false
deriving DecidableEq, Repr

inductive PropertyName where
  | plain (name : List Char)
  | valued (name value : List Char)
deriving DecidableEq, Repr

inductive NamedSet where
  | blank
  | digit
  | word
  | ascii (set : CharSet)
  | property (name : PropertyName)
deriving DecidableEq, Repr

inductive SetOperation where
  | inter
  | minus
  | apart
deriving DecidableEq, Repr

def SetOperation.apply : SetOperation → CharSet → CharSet → CharSet
  | inter => .inter
  | minus => .minus
  | apart => .apart

inductive SetExpression where
  | nothing (span : Span)
  | char (literal : Literal)
  | range (span : Span) (first last : Literal)
  | named (span : Span) (set : NamedSet) (negated : Bool)
  | bracket (span : Span) (negated : Bool) (inner : SetExpression)
  | union (span : Span) (items : List SetExpression)
  | operation (span : Span) (o : SetOperation) (left right : SetExpression)

def SetExpression.span : SetExpression → Span
  | nothing span => span
  | char literal => literal.span
  | range span _ _ => span
  | named span _ _ => span
  | bracket span _ _ => span
  | union span _ => span
  | operation span _ _ _ => span

inductive Anchor where
  | lineStart
  | lineEnd
  | textStart
  | textEnd
  | word (edge : WordEdge)
deriving DecidableEq, Repr

inductive Expression where
  | empty (span : Span)
  | flags (span : Span) (items : List FlagItem)
  | literal (l : Literal)
  | dot (span : Span)
  | anchor (span : Span) (a : Anchor)
  | set (s : SetExpression)
  | group (span : Span) (items : List FlagItem) (body : Expression)
  | times (span : Span) (least : Nat) (most : Option Nat) (body : Expression)
  | cat (span : Span) (parts : List Expression)
  | alt (span : Span) (branches : List Expression)

def Expression.span : Expression → Span
  | empty span => span
  | flags span _ => span
  | literal l => l.span
  | dot span => span
  | anchor span _ => span
  | set s => s.span
  | group span _ _ => span
  | times span _ _ _ => span
  | cat span _ => span
  | alt span _ => span

/-! How deep expressions go -/

def maxDepth : Nat := 250

def checkDepth (span : Span) (depth : Nat) : Except Error Unit :=
  if maxDepth < depth then .error { fault := .tooDeep maxDepth, span := span } else .ok ()

mutual

def SetExpression.checkDepth (depth : Nat) : SetExpression → Except Error Unit
  | .bracket span _ inner => do
    Pattern.checkDepth span (depth + 1)
    inner.checkDepth (depth + 1)
  | .union span items => do
    Pattern.checkDepth span (depth + 1)
    SetExpression.checkDepths (depth + 1) items
  | .operation span _ left right => do
    Pattern.checkDepth span (depth + 1)
    left.checkDepth (depth + 1)
    right.checkDepth (depth + 1)
  | _ => .ok ()

def SetExpression.checkDepths (depth : Nat) : List SetExpression → Except Error Unit
  | [] => .ok ()
  | s :: rest => do
    s.checkDepth depth
    SetExpression.checkDepths depth rest

end

mutual

def Expression.checkDepth (depth : Nat) : Expression → Except Error Unit
  | .set s => s.checkDepth depth
  | .group span _ body => do
    Pattern.checkDepth span (depth + 1)
    body.checkDepth (depth + 1)
  | .times span _ _ body => do
    Pattern.checkDepth span (depth + 1)
    body.checkDepth (depth + 1)
  | .cat span parts => do
    Pattern.checkDepth span (depth + 1)
    Expression.checkDepths (depth + 1) parts
  | .alt span branches => do
    Pattern.checkDepth span (depth + 1)
    Expression.checkDepths (depth + 1) branches
  | _ => .ok ()

def Expression.checkDepths (depth : Nat) : List Expression → Except Error Unit
  | [] => .ok ()
  | e :: rest => do
    e.checkDepth depth
    Expression.checkDepths depth rest

end

/-! What expressions mean -/

structure Mode where
  ignoreCase : Bool := false
  multiLine : Bool := false
  dotAll : Bool := false
  unicode : Bool := true
  returns : Bool := false
deriving DecidableEq, Repr

def Mode.change (m : Mode) (items : List FlagItem) : Mode where
  ignoreCase := (flagState? .ignoreCase true items).getD m.ignoreCase
  multiLine := (flagState? .multiLine true items).getD m.multiLine
  dotAll := (flagState? .dotAll true items).getD m.dotAll
  unicode := (flagState? .unicode true items).getD m.unicode
  returns := (flagState? .returns true items).getD m.returns

/-- A byte that is no character of its own is refused where bytes are meant. -/
def Literal.checked (l : Literal) (m : Mode) : Except Error Char :=
  if !m.unicode && l.isByte && 0x80 ≤ l.char.toNat then
    .error { fault := .brokenEncoding, span := l.span }
  else .ok l.char

/-- The character in a set: among bytes, only those of ASCII can stand. -/
def Literal.member (l : Literal) (m : Mode) : Except Error Char := do
  let c ← l.checked m
  if !m.unicode && 0x80 ≤ c.toNat then .error { fault := .noUnicode, span := l.span } else .ok c

/-- The set without what the negation takes away; the rest of the bytes is no text. -/
def negated (m : Mode) (span : Span) (isNegated : Bool) (s : CharSet) : Except Error CharSet :=
  if !m.unicode && isNegated then .error { fault := .brokenEncoding, span := span }
  else .ok (s.negateIf isNegated)

def Mode.fold (m : Mode) (s : CharSet) : CharSet :=
  if !m.ignoreCase then s
  else if m.unicode then .folded s
  else .inter (.range 0x0 0x7F) (.folded s)

def Mode.literal (m : Mode) (c : Char) : CharSet :=
  if m.unicode || c.toNat < 0x80 then m.fold (.single c) else .single c

def NamedSet.meaning (m : Mode) (span : Span) : NamedSet → Bool → Except Error CharSet
  | blank, isNegated =>
    negated m span isNegated (if m.unicode then .blank else CharSet.asciiBlank)
  | digit, isNegated =>
    negated m span isNegated (if m.unicode then .digit else CharSet.asciiDigit)
  | word, isNegated => negated m span isNegated (if m.unicode then .word else CharSet.asciiWord)
  | ascii set, isNegated => negated m span isNegated (m.fold set)
  | property name, isNegated =>
    if !m.unicode then .error { fault := .noUnicode, span := span }
    else
      match name with
      | .plain name =>
        match CharSet.ofProperty? name with
        | some set => .ok ((m.fold set).negateIf isNegated)
        | none => .error { fault := .unknownProperty, span := span }
      | .valued name value =>
        match CharSet.ofValue? name value with
        | some (some set) => .ok ((m.fold set).negateIf isNegated)
        | some none => .error { fault := .unknownValue, span := span }
        | none => .error { fault := .unknownProperty, span := span }

mutual

def SetExpression.meaning (m : Mode) : SetExpression → Except Error CharSet
  | .nothing _ => .ok .nothing
  | .char l => do
    let c ← l.member m
    return .single c
  | .range _ first last => do
    let first ← first.member m
    let last ← last.member m
    return .range first.toNat last.toNat
  | .named span set isNegated => set.meaning m span isNegated
  | .bracket span isNegated inner => do
    let set ← inner.meaning m
    negated m span isNegated (m.fold set)
  | .union _ items => SetExpression.meanings m items
  | .operation _ o left right => do
    let left ← left.meaning m
    let right ← right.meaning m
    return o.apply (m.fold left) (m.fold right)

def SetExpression.meanings (m : Mode) : List SetExpression → Except Error CharSet
  | [] => .ok .nothing
  | s :: rest => do
    let set ← s.meaning m
    let others ← SetExpression.meanings m rest
    return .union set others

end

def Mode.dot (m : Mode) (span : Span) : Except Error CharSet :=
  if !m.unicode then .error { fault := .brokenEncoding, span := span }
  else if m.dotAll then .ok .any
  else if m.returns then .ok (.minus .any (.union (.single '\n') (.single '\r')))
  else .ok (.minus .any (.single '\n'))

def Mode.look (m : Mode) : Anchor → Look
  | .lineStart => if m.multiLine then .lineStart m.returns else .textStart
  | .lineEnd => if m.multiLine then .lineEnd m.returns else .textEnd
  | .textStart => .textStart
  | .textEnd => .textEnd
  | .word edge => .word (if m.unicode then .word else CharSet.asciiWord) edge

mutual

/-- The pattern of an expression, and the flags that hold after it.  Flags hold to the end of the
group in which they are set. -/
def Expression.meaning (m : Mode) : Expression → Except Error (Pattern × Mode)
  | .empty _ => .ok (.empty, m)
  | .flags _ items => .ok (.empty, m.change items)
  | .literal l => do
    let c ← l.checked m
    return (.one (m.literal c), m)
  | .dot span => do
    let set ← m.dot span
    return (.one set, m)
  | .anchor _ a => .ok (.look (m.look a), m)
  | .set s => do
    let set ← s.meaning m
    return (.one set, m)
  | .group _ items body => do
    let (p, _) ← body.meaning (m.change items)
    return (p, m)
  | .times _ least most body => do
    let (p, m) ← body.meaning m
    return (.times p least most, m)
  | .cat _ parts => Expression.sequence m parts
  | .alt _ branches => Expression.choice m branches

def Expression.sequence (m : Mode) : List Expression → Except Error (Pattern × Mode)
  | [] => .ok (.empty, m)
  | e :: rest => do
    let (p, m) ← e.meaning m
    let (q, m) ← Expression.sequence m rest
    return (.cat p q, m)

def Expression.choice (m : Mode) : List Expression → Except Error (Pattern × Mode)
  | [] => .ok (.one .nothing, m)
  | e :: rest => do
    let (p, m) ← e.meaning m
    let (q, m) ← Expression.choice m rest
    return (.alt p q, m)

end

end ApkAudit.Pattern
