import ApkAudit.Digest.Md5
import ApkAudit.Digest.Sha1
import ApkAudit.Digest.Sha256
import ApkAudit.Digest.Sha512

/-!
The fingerprint of a package: its digests in hexadecimal.
-/

namespace ApkAudit

structure Fingerprint where
  md5 : String
  sha1 : String
  sha256 : String
  sha512 : String
deriving DecidableEq, Repr

def Fingerprint.ofBytes (bytes : ByteArray) : Fingerprint where
  md5 := Digest.hex (Digest.Md5.digest bytes)
  sha1 := Digest.hex (Digest.Sha1.digest bytes)
  sha256 := Digest.hex (Digest.Sha256.digest bytes)
  sha512 := Digest.hex (Digest.Sha512.digest bytes)

end ApkAudit
