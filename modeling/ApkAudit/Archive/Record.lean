/-!
Numbers in binary records: the lowest byte comes first.
-/

namespace ApkAudit.Archive

def number? (content : ByteArray) (position : Nat) : Nat → Option Nat
  | 0 => some 0
  | width + 1 => do
    let low ← content[position]?
    let high ← number? content (position + 1) width
    return low.toNat + 256 * high

def holds (content : ByteArray) (position length : Nat) : Bool :=
  position + length ≤ content.size

def bytes? (content : ByteArray) (position length : Nat) : Option (List UInt8) :=
  if holds content position length then
    some (content.extract position (position + length)).toList
  else none

end ApkAudit.Archive
