import ApkAudit.Digest.Block

/-!
SHA-1.
-/

namespace ApkAudit.Digest.Sha1

structure State where
  a : UInt32
  b : UInt32
  c : UInt32
  d : UInt32
  e : UInt32

def start : State where
  a := 0x67452301
  b := 0xefcdab89
  c := 0x98badcfe
  d := 0x10325476
  e := 0xc3d2e1f0

/-- The eighty words of a block: sixteen read, the others mixed from earlier ones. -/
def schedule (bytes : ByteArray) (offset : Nat) : Array UInt32 :=
  let read := Nat.fold 16 (fun i _ w => w.push (word32Big bytes (offset + 4 * i)))
    (Array.emptyWithCapacity 80)
  Nat.fold 64
    (fun i _ w =>
      w.push (rotateLeft32
        (w.getD (i + 13) 0 ^^^ w.getD (i + 8) 0 ^^^ w.getD (i + 2) 0 ^^^ w.getD i 0) 1))
    read

def mixed (i : Nat) (s : State) : UInt32 :=
  if i < 20 then ((s.b &&& s.c) ||| ((s.b ^^^ 0xffffffff) &&& s.d)) + 0x5a827999
  else if i < 40 then (s.b ^^^ s.c ^^^ s.d) + 0x6ed9eba1
  else if i < 60 then ((s.b &&& s.c) ||| (s.b &&& s.d) ||| (s.c &&& s.d)) + 0x8f1bbcdc
  else (s.b ^^^ s.c ^^^ s.d) + 0xca62c1d6

def round (i : Nat) (s : State) (word : UInt32) : State :=
  ⟨rotateLeft32 s.a 5 + mixed i s + s.e + word, s.a, rotateLeft32 s.b 30, s.c, s.d⟩

def compress (s : State) (bytes : ByteArray) (offset : Nat) : State :=
  let words := schedule bytes offset
  let t := Nat.fold 80 (fun i _ t => round i t (words.getD i 0)) s
  ⟨s.a + t.a, s.b + t.b, s.c + t.c, s.d + t.d, s.e + t.e⟩

def State.bytes (s : State) : List UInt8 :=
  [s.a, s.b, s.c, s.d, s.e].flatMap fun w => bigEndian w.toNat 4

def digest (message : ByteArray) : List UInt8 :=
  let padded := pad 64 (bigEndian (8 * message.size) 8) message
  (Nat.fold (padded.size / 64) (fun i _ s => compress s padded (64 * i)) start).bytes

end ApkAudit.Digest.Sha1
