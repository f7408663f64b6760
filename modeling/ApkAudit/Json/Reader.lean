import ApkAudit.Json.Number
import ApkAudit.Text.CodePoint
import ApkAudit.Text.Lines

/-!
Reading JSON text.
-/

namespace ApkAudit.Json

def isBlank (c : Char) : Bool :=
  c == ' ' || c == '\n' || c == '\t' || c == '\r'

def unit? : List Char → Option (Nat × List Char)
  | a :: b :: c :: d :: rest => do
    let a ← Number.digit? 16 a
    let b ← Number.digit? 16 b
    let c ← Number.digit? 16 c
    let d ← Number.digit? 16 d
    return (((a * 16 + b) * 16 + c) * 16 + d, rest)
  | _ => none

/-- A character by its number: one beyond 16 bits is written as a pair. -/
def codeUnits? (text : List Char) : Option (Char × List Char) := do
  let (high, rest) ← unit? text
  if 0xD800 ≤ high && high < 0xDC00 then
    match rest with
    | '\\' :: 'u' :: rest =>
      let (low, rest) ← unit? rest
      if 0xDC00 ≤ low && low < 0xE000 then
        let c ← Text.charOfNat? (0x10000 + (high - 0xD800) * 0x400 + (low - 0xDC00))
        return (c, rest)
      else none
    | _ => none
  else
    let c ← Text.charOfNat? high
    return (c, rest)

def unescape? : Char → Option Char
  | '"' => some '"'
  | '\\' => some '\\'
  | '/' => some '/'
  | 'b' => some '\x08'
  | 'f' => some '\x0c'
  | 'n' => some '\n'
  | 'r' => some '\r'
  | 't' => some '\t'
  | _ => none

/-- Reads a text up to its closing quote, after the characters already read (the last one first),
with a bound on the steps. -/
def stringRest (done : List Char) : Nat → List Char → Option (String × List Char)
  | 0, _ => none
  | n + 1, text =>
    match text with
    | [] => none
    | '"' :: rest => some (String.ofList done.reverse, rest)
    | '\\' :: 'u' :: rest =>
      match codeUnits? rest with
      | some (c, rest) => stringRest (c :: done) n rest
      | none => none
    | '\\' :: c :: rest =>
      match unescape? c with
      | some c => stringRest (c :: done) n rest
      | none => none
    | c :: rest => if c.toNat < 0x20 || c == '\\' then none else stringRest (c :: done) n rest

def isNumberPart (c : Char) : Bool :=
  c.isDigit || c == '-' || c == '+' || c == '.' || c == 'e' || c == 'E'

def word? (word : List Char) (value : Json) (text : List Char) : Option (Json × List Char) :=
  (Text.dropStart? word text).map fun rest => (value, rest)

mutual

def value? : Nat → List Char → Option (Json × List Char)
  | 0, _ => none
  | n + 1, text =>
    match text.dropWhile isBlank with
    | '"' :: rest => (stringRest [] n rest).map fun (s, rest) => (.string s, rest)
    | '[' :: rest =>
      match rest.dropWhile isBlank with
      | ']' :: rest => some (.array [], rest)
      | rest => items? [] n rest
    | '\x7b' :: rest =>
      match rest.dropWhile isBlank with
      | '\x7d' :: rest => some (.object [], rest)
      | rest => members? [] n rest
    | 'n' :: rest => word? ['u', 'l', 'l'] .null rest
    | 't' :: rest => word? ['r', 'u', 'e'] (.bool true) rest
    | 'f' :: rest => word? ['a', 'l', 's', 'e'] (.bool false) rest
    | text =>
      (ofNumber? (text.takeWhile isNumberPart)).map fun value =>
        (value, text.dropWhile isNumberPart)

def items? (done : List Json) : Nat → List Char → Option (Json × List Char)
  | 0, _ => none
  | n + 1, text =>
    match value? n text with
    | none => none
    | some (item, rest) =>
      match rest.dropWhile isBlank with
      | ']' :: rest => some (.array (item :: done).reverse, rest)
      | ',' :: rest => items? (item :: done) n rest
      | _ => none

def members? (done : List (String × Json)) : Nat → List Char → Option (Json × List Char)
  | 0, _ => none
  | n + 1, text =>
    match text.dropWhile isBlank with
    | '"' :: rest =>
      match stringRest [] n rest with
      | none => none
      | some (name, rest) =>
        match rest.dropWhile isBlank with
        | ':' :: rest =>
          match value? n rest with
          | none => none
          | some (value, rest) =>
            match rest.dropWhile isBlank with
            | '\x7d' :: rest => some (ofMembers ((name, value) :: done).reverse, rest)
            | ',' :: rest => members? ((name, value) :: done) n rest
            | _ => none
        | _ => none
    | _ => none

end

def ofText? (text : String) : Option Json :=
  match value? (2 * text.toList.length + 2) text.toList with
  | some (value, rest) => if rest.all isBlank then some value else none
  | none => none

end ApkAudit.Json
