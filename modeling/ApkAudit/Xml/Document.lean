import ApkAudit.Xml.Encoding
import ApkAudit.Xml.Reader

/-!
The events of a document given as bytes: decoding, tokens and events in one pass, which ends at the
first error.
-/

namespace ApkAudit.Xml

structure Session where
  decoder : Decoder := {}
  lexer : Lexer := {}
  reader : Reader := {}
  events : List Event := []

/-- A failed pass keeps the events before the error. -/
abbrev Session.Pass (α : Type) := Except (List Event × Error) α

namespace Session

def fail (s : Session) (e : Error) : Pass α :=
  .error (s.events, e)

def token (p : Session × List Char) (t : Token) : Pass (Session × List Char) :=
  let s := p.1
  match s.reader.step t with
  | .error e => s.fail e
  | .ok step =>
    let next := { s with reader := step.reader, events := step.events.reverse ++ s.events }
    match step.encoding.map s.decoder.declare with
    | none => .ok (next, p.2 ++ step.inserted)
    | some (.ok decoder) => .ok ({ next with decoder := decoder }, p.2 ++ step.inserted)
    | some (.error e) => s.fail e

def char (s : Session) (c : Char) : Pass (Session × List Char) :=
  match s.lexer.step c with
  | .error e => s.fail e
  | .ok (lexer, tokens) => tokens.foldlM token ({ s with lexer := lexer }, [])

def maxInsertions : Nat := 10

def maxWaiting : Nat := 1000000

def chars (insertions : Nat) (s : Session) (waiting : List Char) : Pass Session :=
  match waiting with
  | [] => .ok s
  | c :: rest =>
    match s.char c with
    | .error e => .error e
    | .ok (next, []) => chars insertions next rest
    | .ok (next, d :: more) =>
      match insertions with
      | 0 => next.fail .entitiesTooDeep
      | left + 1 =>
        if rest.length > maxWaiting then next.fail .entitiesTooDeep
        else chars left next (d :: more ++ rest)
termination_by (insertions, waiting.length)

def byte (s : Session) (b : UInt8) : Pass Session :=
  match s.decoder.step b with
  | .error e => s.fail e
  | .ok (decoder, none) => .ok { s with decoder := decoder }
  | .ok (decoder, some c) => chars maxInsertions { s with decoder := decoder } [c]

end Session

def Session.mayEnd (s : Session) : Bool :=
  match s.reader.place, s.lexer.mode with
  | .content, .between =>
    s.reader.stage = .element && s.reader.openTags.isEmpty && s.decoder.pending.isEmpty
  | _, _ => false

def events (bytes : ByteArray) : List (Except Error Event) :=
  match bytes.toList.foldlM Session.byte {} with
  | .error (events, e) => events.reverse.map .ok ++ [.error e]
  | .ok s =>
    if s.mayEnd then s.events.reverse.map .ok
    else s.events.reverse.map .ok ++ [.error .unexpectedEnd]

end ApkAudit.Xml
