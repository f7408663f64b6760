/-!
What the digests share: padding to whole blocks, words in either byte order, and hexadecimal text.
-/

namespace ApkAudit.Digest

def byteAt (bytes : ByteArray) (i : Nat) : UInt8 :=
  if h : i < bytes.size then bytes.get i h else 0

def littleEndian (value : Nat) : Nat → List UInt8
  | 0 => []
  | count + 1 => UInt8.ofNat (value % 256) :: littleEndian (value / 256) count

def bigEndian (value count : Nat) : List UInt8 :=
  (littleEndian value count).reverse

def zeroCount (block lengthField size : Nat) : Nat :=
  (block - (size + 1 + lengthField) % block) % block

def append (bytes : ByteArray) (more : List UInt8) : ByteArray :=
  more.foldl ByteArray.push bytes

def pad (block : Nat) (lengthField : List UInt8) (message : ByteArray) : ByteArray :=
  append
    (append message (0x80 :: List.replicate (zeroCount block lengthField.length message.size) 0))
    lengthField

def word32Big (bytes : ByteArray) (i : Nat) : UInt32 :=
  (byteAt bytes i).toUInt32 <<< 24 ||| (byteAt bytes (i + 1)).toUInt32 <<< 16 |||
    (byteAt bytes (i + 2)).toUInt32 <<< 8 ||| (byteAt bytes (i + 3)).toUInt32

def word32Little (bytes : ByteArray) (i : Nat) : UInt32 :=
  (byteAt bytes (i + 3)).toUInt32 <<< 24 ||| (byteAt bytes (i + 2)).toUInt32 <<< 16 |||
    (byteAt bytes (i + 1)).toUInt32 <<< 8 ||| (byteAt bytes i).toUInt32

def word64Big (bytes : ByteArray) (i : Nat) : UInt64 :=
  (word32Big bytes i).toUInt64 <<< 32 ||| (word32Big bytes (i + 4)).toUInt64

def rotateLeft32 (x : UInt32) (n : UInt32) : UInt32 :=
  x <<< n ||| x >>> (32 - n)

def rotateRight32 (x : UInt32) (n : UInt32) : UInt32 :=
  x >>> n ||| x <<< (32 - n)

def rotateRight64 (x : UInt64) (n : UInt64) : UInt64 :=
  x >>> n ||| x <<< (64 - n)

def hex (bytes : List UInt8) : String :=
  String.ofList
    (bytes.flatMap fun b => [Nat.digitChar (b.toNat / 16), Nat.digitChar (b.toNat % 16)])

end ApkAudit.Digest
