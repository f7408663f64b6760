import ApkAudit.Code.Index
import ApkAudit.Disk.Path
import ApkAudit.Manifest.Element

/-!
A package that has been read: what its manifest says, and the index of its code.
-/

namespace ApkAudit

structure Package where
  packageName : String := ""
  versionName : Option String := none
  versionCode : Option String := none
  minSdk : Option String := none
  targetSdk : Option String := none
  manifest : Element := { name := "" }
  /-- Distinct names in ascending order. -/
  permissions : List String := []
  codeUnits : Nat := 1
  index : CodeIndex := {}

namespace Package

def fileName (path : String) : String :=
  (Path.stem? path).getD "package"

def insertName (name : String) : List String → List String
  | [] => [name]
  | n :: rest =>
    if name < n then name :: n :: rest
    else if name = n then n :: rest
    else n :: insertName name rest

def permissionSet (names : List String) : List String :=
  names.foldl (fun set name => insertName name set) []

end Package

end ApkAudit
