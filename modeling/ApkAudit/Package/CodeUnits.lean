import ApkAudit.Archive.Zip
import ApkAudit.Disk.Basic

/-!
The code units of a package file: `classes.dex`, `classes2.dex` and so on, at its top.
-/

namespace ApkAudit.Package

def isCodeUnit (name : List Char) : Bool :=
  match Text.dropStart? "classes".toList name with
  | some rest => rest.dropWhile Char.isDigit == ".dex".toList
  | none => false

/-- Entry names are compared byte by byte: the names of code units are plain ASCII. -/
def isCodeUnitEntry (name : List UInt8) : Bool :=
  isCodeUnit (name.map fun b => Char.ofNat b.toNat)

def unreadableArchive (path message : String) : Failure :=
  .ofFault (.archiveCorrupted s!"{path}: {message}")

/-- Counts the code units of a package file.  A name that occurs twice counts twice. -/
def countCodeUnits (disk : Disk) (path : String) : Except Failure Nat :=
  match disk.get path with
  | .error e => .error (e.failure.within s!"could not open {path}")
  | .ok (.locked _) => .error (DiskError.denied.failure.within s!"could not open {path}")
  | .ok (.folder _ _) => .error (unreadableArchive path DiskError.isFolder.message)
  | .ok (.file content) =>
    match Archive.Zip.names content with
    | .error problem => .error (unreadableArchive path problem.message)
    | .ok names => .ok (names.countP isCodeUnitEntry)

end ApkAudit.Package
