import ApkAudit.Report.Metadata
import ApkAudit.Report.Writer

/-!
The report of one scan: its status, its findings and its metadata.
-/

namespace ApkAudit

inductive Status where
  | loadingPackage
  | startingPackage
  | startingAnalysis
  | loadingDetectors
  | runningDetectors
  | success
  | fail
deriving DecidableEq, Repr

namespace Status

def all : List Status :=
  [loadingPackage, startingPackage, startingAnalysis, loadingDetectors, runningDetectors, success,
    fail]

def text : Status → String
  | loadingPackage => "loading_apk"
  | startingPackage => "starting_apk"
  | startingAnalysis => "starting_androbugs"
  | loadingDetectors => "loading_vectors"
  | runningDetectors => "checking_vectors"
  | success => "success"
  | fail => "fail"

end Status

structure Report where
  status : Status := .loadingPackage
  findings : List Finding := []
  metadata : Metadata := {}
  completed : Bool := false

namespace Report

def empty : Report := {}

def setStatus (r : Report) (status : Status) : Report :=
  { r with status := status }

def setMetadata (r : Report) (key : String) (value : Json) (hidden : Bool) : Report :=
  { r with metadata := r.metadata.set key value hidden }

def merge (r : Report) (w : Writer) : Report :=
  w.metadata.foldl (fun r m => r.setMetadata m.key m.value m.hidden)
    { r with findings := r.findings ++ w.findings }

def complete (r : Report) : Report :=
  { r with completed := true }

def totalFindings (r : Report) : Nat :=
  r.findings.length

def analyzerVersion : String := "0.1.0"

def json (r : Report) : Json :=
  .object [("analyzer_version", .string analyzerVersion), ("status", .string r.status.text),
    ("metadata", r.metadata.json), ("total_findings", .int r.totalFindings),
    ("findings", .array (r.findings.map Finding.json))]

end Report

end ApkAudit
