import ApkAudit.Audit.Detector

/-!
Application flags: debugging and backups that are switched on in the manifest.
-/

namespace ApkAudit.Detectors.ApplicationFlags

def readFlag (name : String) (e : Element) : Except String Bool :=
  match (e.android? name).map Text.trim with
  | none => .ok false
  | some value =>
    if Text.lower value = "true" then .ok true
    else if Text.lower value = "false" then .ok false
    else .error value

structure Flag where
  name : String
  finding : Finding

def debuggable : Flag where
  name := "debuggable"
  finding := {
    tag := "DEBUGGABLE"
    level := .critical
    title := "Manifest Debug"
    description := "The application is in debug mode. This allows any malicious person to " ++
      "inject arbitrary code in the application. This option should only be used while in " ++
      "development."
    details := ["android:debuggable=\"true\""] }

def allowBackup : Flag where
  name := "allowBackup"
  finding := {
    tag := "ALLOW_BACKUP"
    level := .notice
    title := "Allows Backup"
    description := "This option allows backups of the application data via adb. Malicious " ++
      "people with physical access could use adb to get private data of your app into their PC."
    details := ["android:allowBackup=\"true\""] }

def flags : List Flag := [debuggable, allowBackup]

def checks (manifest : Element) : List (Element × Flag) :=
  (manifest.findAll "application").flatMap fun application =>
    flags.map fun flag => (application, flag)

def findings (manifest : Element) : List Finding :=
  (checks manifest).filterMap fun (application, flag) =>
    match readFlag flag.name application with
    | .ok true => some flag.finding
    | _ => none

def problems (manifest : Element) : List String :=
  (checks manifest).filterMap fun (application, flag) =>
    let name := flag.name
    match readFlag name application with
    | .ok _ => none
    | .error value => some s!"invalid value `{value}` for the `{name}` attribute"

def tags : List String := ["DEBUGGABLE", "ALLOW_BACKUP"]

def detector : Detector where
  name := "manifest_flags"
  tags := tags
  description := "Checks if the application is debuggable or allows backups."
  analyze c := .ofFindings (findings c.manifest) (problems c.manifest)

end ApkAudit.Detectors.ApplicationFlags
