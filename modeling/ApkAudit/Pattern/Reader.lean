import ApkAudit.Pattern.Bracket

/-!
Reading patterns from their text.
-/

namespace ApkAudit.Pattern

structure Opening where
  span : Span
  items : List FlagItem := []
  loose : Bool

structure Level where
  opening : Option Opening := none
  start : Nat := 0
  branches : List Expression := []
  branchStart : Nat := 0
  parts : List Expression := []

namespace Level

def branch (l : Level) (stop : Nat) : Expression :=
  match l.parts with
  | [] => .empty ⟨l.branchStart, stop⟩
  | [part] => part
  | parts => .cat ⟨l.branchStart, stop⟩ parts.reverse

def body (l : Level) (stop : Nat) : Expression :=
  if l.branches.isEmpty then l.branch stop
  else .alt ⟨l.start, stop⟩ (l.branch stop :: l.branches).reverse

def push (l : Level) (part : Expression) : Level :=
  { l with parts := part :: l.parts }

def split (l : Level) (stop : Nat) : Level :=
  { l with branches := l.branch stop :: l.branches, branchStart := stop + 1, parts := [] }

end Level

structure Reader where
  cursor : Cursor
  level : Level := {}
  outer : List Level := []
  names : List (List Char × Span) := []

namespace Cursor

/-! Groups -/

def isNamePart (c : Char) (isFirst : Bool) : Bool :=
  c == '_' || CharSet.alphabetic.has c ||
    (!isFirst && (c == '.' || c == '[' || c == ']' || CharSet.numbers.has c))

def nameRest (isFirst : Bool) : Nat → Cursor → Except Error (List Char × Cursor)
  | 0, s => fail .unclosedName s.here
  | n + 1, s =>
    match s.rest with
    | [] => fail .unclosedName s.here
    | '>' :: _ => .ok ([], s)
    | c :: _ =>
      if isNamePart c isFirst then do
        let (name, s) ← nameRest false n s.bump
        return (c :: name, s)
      else fail .invalidNameCharacter s.charSpan

def groupName (s : Cursor) (names : List (List Char × Span)) :
    Except Error ((List Char × Span) × Cursor) := do
  let (name, after) ← nameRest true (s.rest.length + 1) s
  let span := after.since s.place
  if name.isEmpty then fail .emptyName s.here
  else
    match names.find? (·.1 = name) with
    | some (_, earlier) =>
      .error { fault := .duplicateName, span := span, earlier := some earlier }
    | none => return ((name, span), after.bump)

def flagsFrom : Nat → Cursor → List (FlagItem × Span) → Except Error (List FlagItem × Cursor)
  | 0, s, _ => fail .flagsCutOff s.here
  | n + 1, s, seen =>
    let again := fun (item : FlagItem) => seen.find? (·.1 = item)
    match s.rest with
    | [] => fail .flagsCutOff s.here
    | '-' :: _ =>
      match again none with
      | some (_, earlier) =>
        .error { fault := .repeatedNegation, span := s.charSpan, earlier := some earlier }
      | none => flagsFrom n s.bump ((none, s.charSpan) :: seen)
    | c :: _ =>
      if c == ':' || c == ')' then
        match seen with
        | (none, span) :: _ => fail .danglingNegation span
        | _ => .ok ((seen.map (·.1)).reverse, s)
      else
        match Flag.ofChar? c with
        | none => fail .unknownFlag s.charSpan
        | some flag =>
          match again (some flag) with
          | some (_, earlier) =>
            .error { fault := .duplicateFlag, span := s.charSpan, earlier := some earlier }
          | none => flagsFrom n s.bump ((some flag, s.charSpan) :: seen)

/-! Counts -/

def maxCount : Nat := 4294967295

def number (s : Cursor) : Except Error Nat × Cursor :=
  let s := s.skipBlanks
  let (digits, after) := s.take Char.isDigit
  let n := digits.foldl (fun n d => 10 * n + (d.toNat - 0x30)) 0
  let read :=
    if digits.isEmpty then fail .missingCount (after.since s.place)
    else if maxCount < n then fail .invalidNumber (after.since s.place)
    else .ok n
  (read, (after.take Text.isBlank).2)

def counts (s : Cursor) : Except Error ((Nat × Option Nat) × Cursor) := do
  let start := s.place
  let s := s.next
  if s.rest.isEmpty then fail .unclosedCount (s.since start)
  else
    let (least, s) := s.number
    match s.rest with
    | [] => fail .unclosedCount (s.since start)
    | ',' :: _ =>
      let s := s.next
      match s.rest with
      | [] => fail .unclosedCount (s.since start)
      | '\x7d' :: _ =>
        let least ← least
        return ((least, none), s)
      | _ =>
        let least ← least
        let (most, s) := s.number
        let most ← most
        if s.rest.head? == some '\x7d' then return ((least, some most), s)
        else fail .unclosedCount (s.since start)
    | _ =>
      let least ← least
      if s.rest.head? == some '\x7d' then return ((least, some least), s)
      else fail .unclosedCount (s.since start)

/-- Goes over the sign of an unwilling repetition: it is of no matter to whether there is a
match. -/
def skipUnwilling (s : Cursor) : Cursor :=
  if s.rest.head? == some '?' then s.bump else s

end Cursor

namespace Reader

def push (r : Reader) (part : Expression) (cursor : Cursor) : Reader :=
  { r with cursor := cursor, level := r.level.push part }

def enter (r : Reader) (span : Span) (items : List FlagItem) (cursor : Cursor) : Reader :=
  let loose := (flagState? .loose true items).getD cursor.loose
  { r with
    cursor := { cursor with loose := loose }
    level := { opening := some ⟨span, items, cursor.loose⟩, start := cursor.place,
               branchStart := cursor.place }
    outer := r.level :: r.outer }

def openGroup (r : Reader) : Except Error Reader := do
  let span := r.cursor.charSpan
  let s := r.cursor.next
  let around := [['?', '='], ['?', '!'], ['?', '<', '='], ['?', '<', '!']].findSome? s.after?
  match around with
  | some after => fail .lookAround (after.since span.start)
  | none =>
    match s.after? ['?', 'P', '<'] <|> s.after? ['?', '<'] with
    | some named =>
      let (name, after) ← named.groupName r.names
      return ({ r with names := name :: r.names }.enter span [] after)
    | none =>
      match s.after? ['?'] with
      | none => return r.enter span [] s
      | some after =>
        if after.rest.isEmpty then fail .unclosedGroup span
        else
          let (items, stop) ← Cursor.flagsFrom (after.rest.length + 1) after []
          let done := stop.bump
          if stop.rest.head? == some ':' then return r.enter span items done
          else if items.isEmpty then fail .nothingToRepeat s.here
          else
            let loose := (flagState? .loose true items).getD done.loose
            return r.push (.flags (done.since span.start) items) { done with loose := loose }

def closeGroup (r : Reader) : Except Error Reader :=
  match r.level.opening, r.outer with
  | some opening, parent :: outer =>
    let body := r.level.body r.cursor.place
    let cursor := { r.cursor.bump with loose := opening.loose }
    let group : Expression := .group (cursor.since opening.span.start) opening.items body
    .ok { r with cursor := cursor, level := parent.push group, outer := outer }
  | _, _ => fail .unopenedGroup r.cursor.charSpan

def repeated (r : Reader) : Except Error (Expression × List Expression) :=
  match r.level.parts with
  | [] => fail .nothingToRepeat r.cursor.here
  | .empty _ :: _ => fail .nothingToRepeat r.cursor.here
  | .flags _ _ :: _ => fail .nothingToRepeat r.cursor.here
  | part :: parts => .ok (part, parts)

def putTimes (r : Reader) (part : Expression) (parts : List Expression) (least : Nat)
    (most : Option Nat) (cursor : Cursor) : Reader :=
  let times : Expression := .times (cursor.since part.span.start) least most part
  { r with cursor := cursor, level := { r.level with parts := times :: parts } }

def repeatBySign (r : Reader) (least : Nat) (most : Option Nat) : Except Error Reader := do
  let (part, parts) ← r.repeated
  return r.putTimes part parts least most r.cursor.bump.skipUnwilling

def repeatByCounts (r : Reader) : Except Error Reader := do
  let (part, parts) ← r.repeated
  let ((least, most), stop) ← r.cursor.counts
  let done := stop.next.skipUnwilling
  if most.any (· < least) then fail .disorderedCounts (done.since r.cursor.place)
  else return r.putTimes part parts least most done

def step (r : Reader) (c : Char) : Except Error Reader :=
  let s := r.cursor
  match c with
  | '(' => r.openGroup
  | ')' => r.closeGroup
  | '|' => .ok { r with cursor := s.bump, level := r.level.split s.place }
  | '[' => do
    let (set, s) ← s.bracket
    return r.push (.set set) s
  | '?' => r.repeatBySign 0 (some 1)
  | '*' => r.repeatBySign 0 none
  | '+' => r.repeatBySign 1 none
  | '\x7b' => r.repeatByCounts
  | '\\' => do
    let (part, s) ← s.escape
    return r.push part s
  | '.' => .ok (r.push (.dot s.charSpan) s.bump)
  | '^' => .ok (r.push (.anchor s.charSpan .lineStart) s.bump)
  | '$' => .ok (r.push (.anchor s.charSpan .lineEnd) s.bump)
  | c => .ok (r.push (.literal { span := s.charSpan, char := c }) s.bump)

def finish (r : Reader) : Except Error Expression :=
  match r.level.opening with
  | some opening => fail .unclosedGroup opening.span
  | none => .ok (r.level.body r.cursor.place)

def run : Nat → Reader → Except Error Expression
  | 0, r => r.finish
  | n + 1, r => do
    let r := { r with cursor := r.cursor.skip }
    match r.cursor.rest with
    | [] => r.finish
    | c :: _ =>
      let r ← r.step c
      run n r

end Reader

def Expression.ofText (text : List Char) : Except Error Expression := do
  let e ← Reader.run (text.length + 1) { cursor := { rest := text } }
  e.checkDepth 0
  return e

inductive Refusal where
  | invalid (e : Error)
  | tooLarge
deriving DecidableEq, Repr

def maxWeight : Nat := 10485760

def ofText (text : List Char) : Except Refusal Pattern :=
  match Expression.ofText text >>= fun e => e.meaning {} with
  | .error e => .error (.invalid e)
  | .ok (p, _) => if maxWeight < p.weight then .error .tooLarge else .ok p

def Refusal.report (text : List Char) : Refusal → List String
  | invalid e => e.report text
  | tooLarge => [s!"Compiled regex exceeds size limit of {maxWeight} bytes."]

end ApkAudit.Pattern
