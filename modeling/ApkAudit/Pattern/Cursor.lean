import ApkAudit.Pattern.Error
import ApkAudit.Text.Blank

/-!
The place that a reader of patterns has come to.
-/

namespace ApkAudit.Pattern

structure Cursor where
  rest : List Char
  place : Nat := 0
  /-- Blanks and comments between the parts count for nothing. -/
  loose : Bool := false

namespace Cursor

def skipped : Bool → List Char → Nat → List Char × Nat
  | _, [], place => ([], place)
  | true, c :: rest, place => skipped (c != '\n') rest (place + 1)
  | false, c :: rest, place =>
    if Text.isBlank c then skipped false rest (place + 1)
    else if c = '#' then skipped true rest (place + 1)
    else (c :: rest, place)

def skip (s : Cursor) : Cursor :=
  if s.loose then
    let (rest, place) := skipped false s.rest s.place
    { s with rest := rest, place := place }
  else s

def bump (s : Cursor) : Cursor :=
  match s.rest with
  | [] => s
  | _ :: rest => { s with rest := rest, place := s.place + 1 }

def bumps : Nat → Cursor → Cursor
  | 0, s => s
  | n + 1, s => bumps n s.bump

def next (s : Cursor) : Cursor :=
  s.bump.skip

def since (s : Cursor) (start : Nat) : Span :=
  ⟨start, s.place⟩

def charSpan (s : Cursor) : Span :=
  ⟨s.place, s.place + 1⟩

def here (s : Cursor) : Span :=
  ⟨s.place, s.place⟩

def after? (s : Cursor) (text : List Char) : Option Cursor :=
  if (Text.dropStart? text s.rest).isSome then some (bumps text.length s) else none

def takeFrom (p : Char → Bool) : Nat → Cursor → List Char × Cursor
  | 0, s => ([], s)
  | n + 1, s =>
    match s.rest with
    | [] => ([], s)
    | c :: _ =>
      if p c then
        let (taken, s) := takeFrom p n s.next
        (c :: taken, s)
      else ([], s)

def take (s : Cursor) (p : Char → Bool) : List Char × Cursor :=
  takeFrom p s.rest.length s

def skipBlanks (s : Cursor) : Cursor :=
  bumps (s.rest.takeWhile Text.isBlank).length s

/-- The character after the one at the cursor, without the blanks between them.  What begins a
comment hides the sign of the comment only. -/
def ahead? (s : Cursor) : Option Char :=
  if !s.loose then s.rest.tail.head?
  else
    let rest := s.rest.tail.dropWhile Text.isBlank
    match rest with
    | '#' :: comment => (comment.dropWhile Text.isBlank).head?
    | _ => rest.head?

end Cursor

end ApkAudit.Pattern
