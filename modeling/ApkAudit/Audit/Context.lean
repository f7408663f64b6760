import ApkAudit.Digest.Fingerprint
import ApkAudit.Exclusions
import ApkAudit.Log
import ApkAudit.Number.Numeral
import ApkAudit.Package.Basic
import ApkAudit.Report.Basic
import ApkAudit.Text.Blank

/-!
The context of an analysis: the facts about a package that detectors read.
-/

namespace ApkAudit

structure Context where
  packageName : String
  manifest : Element
  index : CodeIndex
  permissions : List String
  minSdk : Nat
  targetSdk : Nat
  exclusions : Exclusions

namespace Context

def readSdk? (level : Option String) : Option Nat :=
  level.bind fun text => (Number.readUInt32 (Text.trim text)).toOption

def defaultMinSdk : Nat := 1

/-- The least and the targeted platform level; the target is the least level unless given. -/
def resolveSdk (minSdk targetSdk : Option String) : Nat × Nat :=
  let least := (readSdk? minSdk).getD defaultMinSdk
  (least, (readSdk? targetSdk).getD least)

def hasPermission (c : Context) (name : String) : Bool :=
  c.permissions.contains name

def sdkAtLeast (c : Context) (level : Nat) : Bool :=
  level ≤ c.targetSdk || level ≤ c.minSdk

def versionCodeJson (code : String) : Json :=
  match Number.readInt64 (Text.trim code) with
  | .ok n => .int n
  | .error _ => .string code

def recordPackage (package : Package) (name : String) (r : Report) : Report :=
  let r := r.setMetadata "platform" (.string "Android") false
  let r := r.setMetadata "package_name" (.string name) false
  let r :=
    match package.versionName.filter fun v => !Text.isBlankText v with
    | some v => r.setMetadata "package_version_name" (.string v) false
    | none => r
  match package.versionCode.filter fun v => !Text.isBlankText v with
  | some v => r.setMetadata "package_version_code" (versionCodeJson v) false
  | none => r

def recordFile (f : Fingerprint) (minSdk targetSdk : Nat) (r : Report) : Report :=
  let r := r.setMetadata "minSdk" (.int minSdk) false
  let r := r.setMetadata "targetSdk" (.int targetSdk) false
  let r := r.setMetadata "file_md5" (.string f.md5) false
  let r := r.setMetadata "file_sha1" (.string f.sha1) false
  let r := r.setMetadata "file_sha256" (.string f.sha256) false
  r.setMetadata "file_sha512" (.string f.sha512) false

def ofPackage (package : Package) (exclusions : Exclusions) : Context where
  packageName := Text.trim package.packageName
  manifest := package.manifest
  index := package.index
  permissions := package.permissions
  minSdk := (resolveSdk package.minSdk package.targetSdk).1
  targetSdk := (resolveSdk package.minSdk package.targetSdk).2
  exclusions := exclusions

def build (package : Package) (path : String) (fingerprint : Fingerprint)
    (exclusions : Exclusions) (r : Report) : Logged (Except Failure Context × Report) :=
  let name := Text.trim package.packageName
  if Text.isBlankText name then pure (.error (.ofFault (.packageNameEmpty path)), r)
  else
    let r := recordPackage package name r
    if package.codeUnits = 0 then pure (.error (.ofFault (.codeMissing path)), r)
    else do
      let context := ofPackage package exclusions
      let minSdk := context.minSdk
      let targetSdk := context.targetSdk
      Log.debug .context s!"resolved SDK levels: min {minSdk}, target {targetSdk}"
      pure (.ok context, recordFile fingerprint minSdk targetSdk r)

end Context

end ApkAudit
