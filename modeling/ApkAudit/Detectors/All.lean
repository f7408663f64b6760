import ApkAudit.Audit.Catalogue
import ApkAudit.Detectors.ApplicationFlags
import ApkAudit.Detectors.Broadcast
import ApkAudit.Detectors.PackageQueries

/-!
The detectors that come with the program.
-/

namespace ApkAudit.Detectors

def all : List Factory :=
  [.ok Broadcast.detector, .ok ApplicationFlags.detector, .ok PackageQueries.detector]

end ApkAudit.Detectors
