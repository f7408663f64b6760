import ApkAudit.Digest.Fingerprint
import ApkAudit.Disk.Basic

/-!
Fingerprints of files on the disk.
-/

namespace ApkAudit.Disk

def fingerprint (disk : Disk) (path : String) : Except Failure Fingerprint :=
  match disk.readBytes path with
  | .ok content => .ok (Fingerprint.ofBytes content)
  | .error e => .error (e.failure.within s!"could not read {path}")

end ApkAudit.Disk
