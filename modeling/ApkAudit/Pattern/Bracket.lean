import ApkAudit.Pattern.Escape

/-!
Sets of characters between brackets.
-/

namespace ApkAudit.Pattern

structure Bracket where
  span : Span
  negated : Bool
  waiting : Option (SetOperation × SetExpression) := none
  items : List SetExpression := []
  start : Nat

namespace Bracket

def push (b : Bracket) (item : SetExpression) : Bracket :=
  { b with items := item :: b.items }

def union (b : Bracket) : SetExpression :=
  match b.items.reverse with
  | [] => .nothing ⟨b.start, b.start⟩
  | [item] => item
  | first :: rest => .union ⟨first.span.start, (rest.getLastD first).span.stop⟩ (first :: rest)

def inner (b : Bracket) : SetExpression :=
  match b.waiting with
  | none => b.union
  | some (o, left) => .operation ⟨left.span.start, b.union.span.stop⟩ o left b.union

def operate (b : Bracket) (o : SetOperation) (start : Nat) : Bracket :=
  { b with waiting := some (o, b.inner), items := [], start := start }

end Bracket

namespace Cursor

def dashes (start : Nat) : Nat → Cursor → List SetExpression →
    Except Error (List SetExpression × Cursor)
  | 0, s, items => .ok (items, s)
  | n + 1, s, items =>
    match s.rest with
    | [] => fail .unclosedSet ⟨start, start⟩
    | '-' :: _ => dashes start n s.next (.char { span := s.charSpan, char := '-' } :: items)
    | _ => .ok (items, s)

/-- Reads the opening of a set.  Dashes and a closing bracket at its beginning are members. -/
def openBracket (s : Cursor) : Except Error (Bracket × Cursor) := do
  let start := s.place
  let s := s.next
  match s.rest with
  | [] => fail .unclosedSet (s.since start)
  | c :: _ =>
    let isNegated := c == '^'
    let s := if isNegated then s.next else s
    if s.rest.isEmpty then fail .unclosedSet (s.since start)
    else
      let first := s.place
      let (items, s) ← dashes start (s.rest.length + 1) s []
      let (items, s) := if items.isEmpty && s.rest.head? == some ']' then
        ([.char { span := s.charSpan, char := ']' }], s.next) else (items, s)
      if s.rest.isEmpty then fail .unclosedSet (s.since start)
      else
        return ({ span := s.since start, negated := isNegated, items := items, start := first }, s)

def asciiSet? (s : Cursor) : Option (SetExpression × Cursor) := do
  let start := s.place
  let s ← s.after? ['[', ':']
  let isNegated := s.rest.head? == some '^'
  let s := if isNegated then s.bump else s
  let name := s.rest.takeWhile (· ≠ ':')
  let s ← (bumps name.length s).after? [':', ']']
  let set ← CharSet.named? (String.ofList name)
  return (.named (s.since start) (.ascii set) isNegated, s)

def member (s : Cursor) : Except Error (Expression × Cursor) :=
  match s.rest with
  | [] => fail .unclosedSet s.here
  | '\\' :: _ => s.escape
  | c :: _ => .ok (.literal { span := s.charSpan, char := c }, s.bump)

def item : Expression → Except Error SetExpression
  | .literal l => .ok (.char l)
  | .set set => .ok set
  | e => fail .escapeInSet e.span

def limit : Expression → Except Error Literal
  | .literal l => .ok l
  | e => fail .unboundedRange e.span

def range (s : Cursor) (opened : Span) : Except Error (SetExpression × Cursor) := do
  let (first, s) ← s.member
  let s := s.skip
  match s.rest with
  | [] => fail .unclosedSet opened
  | c :: _ =>
    if c ≠ '-' || s.ahead? == some ']' || s.ahead? == some '-' then
      let set ← item first
      return (set, s)
    else
      let s := s.next
      if s.rest.isEmpty then fail .unclosedSet opened
      else
        let (last, s) ← s.member
        let span : Span := ⟨first.span.start, last.span.stop⟩
        let first ← limit first
        let last ← limit last
        if last.char < first.char then fail .disorderedRange span
        else return (.range span first last, s)

def operation? (s : Cursor) : Option SetOperation :=
  match s.rest with
  | '&' :: '&' :: _ => some .inter
  | '-' :: '-' :: _ => some .minus
  | '~' :: '~' :: _ => some .apart
  | _ => none

def bracketRest : Nat → Cursor → Bracket → List Bracket → Except Error (SetExpression × Cursor)
  | 0, _, b, _ => fail .unclosedSet b.span
  | n + 1, s, b, outer => do
    let s := s.skip
    match s.rest with
    | [] => fail .unclosedSet b.span
    | '[' :: _ =>
      match s.asciiSet? with
      | some (set, s) => bracketRest n s (b.push set) outer
      | none =>
        let (nested, s) ← s.openBracket
        bracketRest n s nested (b :: outer)
    | ']' :: _ =>
      let s := s.bump
      let set : SetExpression := .bracket (s.since b.span.start) b.negated b.inner
      match outer with
      | [] => return (set, s)
      | parent :: outer => bracketRest n s (parent.push set) outer
    | _ =>
      match s.operation? with
      | some o =>
        let s := s.bump.bump
        bracketRest n s (b.operate o s.place) outer
      | none =>
        let (set, s) ← s.range b.span
        bracketRest n s (b.push set) outer

def bracket (s : Cursor) : Except Error (SetExpression × Cursor) := do
  let (b, after) ← s.openBracket
  bracketRest (s.rest.length + 1) after b []

end Cursor

end ApkAudit.Pattern
