import ApkAudit.Text.Utf8
import ApkAudit.Xml.Error

/-!
From bytes to characters, one byte at a time.  A document is UTF-8 unless a byte-order mark or its
declaration says otherwise.
-/

namespace ApkAudit.Xml

inductive Encoding where
  | unknown
  | default
  | utf8
  | latin1
  | ascii
  | utf16 (big : Bool)
deriving DecidableEq, Repr

structure Decoder where
  encoding : Encoding := .unknown
  pending : List UInt8 := []

def charOfUtf8? (bytes : List UInt8) : Option Char :=
  (Text.decodeUtf8? ⟨bytes.toArray⟩).bind fun s => s.toList.head?

def utf16Unit (big : Bool) (a b : UInt8) : Nat :=
  if big then a.toNat * 256 + b.toNat else b.toNat * 256 + a.toNat

def charOfUtf16 (big : Bool) : List UInt8 → Except Error (Option Char)
  | [a, b] =>
    let unit := utf16Unit big a b
    if 0xD800 ≤ unit ∧ unit ≤ 0xDBFF then .ok none
    else if 0xDC00 ≤ unit ∧ unit ≤ 0xDFFF then .error .invalidBytes
    else .ok (some (Char.ofNat unit))
  | [a, b, c, d] =>
    let high := utf16Unit big a b
    let low := utf16Unit big c d
    if 0xDC00 ≤ low ∧ low ≤ 0xDFFF then
      .ok (some (Char.ofNat (0x10000 + (high - 0xD800) * 0x400 + (low - 0xDC00))))
    else .error .invalidBytes
  | _ => .ok none

def Decoder.utf8Step (decoder : Decoder) (pending : List UInt8) :
    Except Error (Decoder × Option Char) :=
  match charOfUtf8? pending with
  | some c => .ok ({ decoder with pending := [] }, some c)
  | none =>
    if pending.length < 4 then .ok ({ decoder with pending := pending }, none)
    else .error .invalidBytes

/-- The start of a document: a byte-order mark is skipped and names the encoding. -/
def Decoder.startStep (pending : List UInt8) : Except Error (Decoder × Option Char) :=
  if pending = [0xEF, 0xBB, 0xBF] then .ok ({ encoding := .utf8 }, none)
  else if pending = [0xFE, 0xFF] then .ok ({ encoding := .utf16 true }, none)
  else if pending = [0xFF, 0xFE] then .ok ({ encoding := .utf16 false }, none)
  else if [[0xEF], [0xEF, 0xBB], [0xFE], [0xFF]].contains pending then
    .ok ({ encoding := .unknown, pending := pending }, none)
  else Decoder.utf8Step { encoding := .default } pending

def Decoder.step (decoder : Decoder) (byte : UInt8) : Except Error (Decoder × Option Char) :=
  let pending := decoder.pending ++ [byte]
  match decoder.encoding with
  | .unknown => Decoder.startStep pending
  | .default | .utf8 => decoder.utf8Step pending
  | .latin1 => .ok (decoder, some (Char.ofNat byte.toNat))
  | .ascii =>
    if byte < 0x80 then .ok (decoder, some (Char.ofNat byte.toNat)) else .error .invalidBytes
  | .utf16 big => do
    match ← charOfUtf16 big pending with
    | some c => .ok ({ decoder with pending := [] }, some c)
    | none => .ok ({ decoder with pending := pending }, none)

/-- The names of encodings.  A name of UTF-16 leaves open which byte of a unit comes first. -/
def encodingNames : List (String × Option Encoding) :=
  [("utf-8", some .utf8), ("utf8", some .utf8), ("iso-8859-1", some .latin1),
    ("latin1", some .latin1), ("utf-16", none), ("utf16", none), ("ascii", some .ascii),
    ("us-ascii", some .ascii)]

/-- Names agree if neither departs from the other before one of them ends, in any case of letters:
`utf` and `UTF-8-BOM` both agree with `utf-8`. -/
def namesAgree (label name : String) : Bool :=
  (label.toList.zip name.toList).all fun p => p.1 = p.2.toLower

/-- The encoding for the rest of a document whose declaration names one.  The first name in the
table that agrees counts, and a byte-order mark must not have said otherwise. -/
def Decoder.declare (decoder : Decoder) (name : String) : Except Error Decoder :=
  match encodingNames.find? fun entry => namesAgree entry.1 name, decoder.encoding with
  | none, _ => .error (.unknownEncoding name)
  | some (_, none), .utf16 _ => .ok decoder
  | some (_, none), _ => .error (.unknownEncoding name)
  | some (_, some encoding), .unknown | some (_, some encoding), .default =>
    .ok { decoder with encoding := encoding }
  | some (_, some encoding), current =>
    if encoding = current then .ok decoder else .error (.unknownEncoding name)

end ApkAudit.Xml
