import ApkAudit.Digest.Fingerprint
import ApkAudit.Number.Binary64

/-!
What a scan takes from outside: when it happens, how long it takes, and what makes it unique.
-/

namespace ApkAudit

structure Seal where
  timestamp : String
  nonce : Nat
deriving DecidableEq, Repr

def Seal.signature (s : Seal) (name fileDigest : String) : String :=
  let timestamp := s.timestamp
  let nonce := s.nonce
  Digest.hex (Digest.Sha512.digest s!"{name}-{fileDigest}-{timestamp}-{nonce}".toUTF8)

/-- Times are texts, and durations are in seconds. -/
structure Occasion where
  started : String
  finished : String
  failed : String
  total : Number.Binary64
  analysis : Number.Binary64
  loading : Number.Binary64
  scanSeal : Seal
  failureSeal : Seal

end ApkAudit
