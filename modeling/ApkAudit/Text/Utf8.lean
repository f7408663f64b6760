/-!
UTF-8: strict reading of a whole text, and reading that puts a replacement character in place of
every ill-formed part.
-/

namespace ApkAudit.Text

def decodeUtf8? (bytes : ByteArray) : Option String :=
  String.fromUTF8? bytes

/-- How a multi-byte character begins: the number of bytes that follow, the payload of the leading
byte, and the range allowed for the second byte. -/
structure Leading where
  following : Nat
  payload : Nat
  low : Nat := 0x80
  high : Nat := 0xBF

/-- The ranges exclude overlong forms, surrogates and what lies above the last code point. -/
def leading? (b : UInt8) : Option Leading :=
  let n := b.toNat
  if n < 0x80 then some { following := 0, payload := n }
  else if n < 0xC2 then none
  else if n < 0xE0 then some { following := 1, payload := n - 0xC0 }
  else if n = 0xE0 then some { following := 2, payload := 0, low := 0xA0 }
  else if n = 0xED then some { following := 2, payload := 13, high := 0x9F }
  else if n < 0xF0 then some { following := 2, payload := n - 0xE0 }
  else if n = 0xF0 then some { following := 3, payload := 0, low := 0x90 }
  else if n < 0xF4 then some { following := 3, payload := n - 0xF0 }
  else if n = 0xF4 then some { following := 3, payload := 4, high := 0x8F }
  else none

structure Partial where
  missing : Nat
  value : Nat
  low : Nat
  high : Nat

def lossyStart (b : UInt8) : List Char × Option Partial :=
  match leading? b with
  | none => (['�'], none)
  | some l =>
    if l.following = 0 then ([Char.ofNat l.payload], none)
    else ([], some ⟨l.following, l.payload, l.low, l.high⟩)

def lossyStep (pending : Option Partial) (b : UInt8) : List Char × Option Partial :=
  match pending with
  | none => lossyStart b
  | some p =>
    if p.low ≤ b.toNat && b.toNat ≤ p.high then
      let value := p.value * 64 + (b.toNat - 0x80)
      if p.missing = 1 then ([Char.ofNat value], none)
      else ([], some ⟨p.missing - 1, value, 0x80, 0xBF⟩)
    else
      let (out, next) := lossyStart b
      ('�' :: out, next)

def decodeLossyFrom (pending : Option Partial) : List UInt8 → List Char
  | [] => if pending.isSome then ['�'] else []
  | b :: rest =>
    let (out, next) := lossyStep pending b
    out ++ decodeLossyFrom next rest

/-- The text of the bytes, with U+FFFD for every longest ill-formed start of a character. -/
def decodeLossy (bytes : ByteArray) : String :=
  String.ofList (decodeLossyFrom none bytes.toList)

end ApkAudit.Text
