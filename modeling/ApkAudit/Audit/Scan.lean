import ApkAudit.Audit.Catalogue
import ApkAudit.Audit.Occasion
import ApkAudit.Package.Loader

/-!
The scan of one package: loading, checking, running the selected detectors, and the report, which
records success or failure.  A scan always ends in a report.
-/

namespace ApkAudit

structure ScanOptions where
  mode : String := "single"
  engineBuild : Nat := 1
  tag : Option String := none
  debugTag : Option String := none

structure Engine where
  catalogue : Catalogue
  exclusions : Exclusions
  options : ScanOptions := {}

namespace Engine

def unexpectedErrorId : String := "unexpected_error"

/-- Runs a detector on a writer of its own.  One that crashes leaves nothing behind. -/
def runDetector (c : Context) (r : Report) (d : Detector) : Logged Report := do
  let name := d.name
  Log.debug .scan s!"running vector {name}"
  let w ← d.write c
  match (d.analyze c).ending with
  | .complete => pure (r.merge w)
  | .incomplete reasons => do
    reasons.forM fun reason => Log.warning .scan s!"vector {name} skipped a branch: {reason}"
    pure (r.merge w)
  | .crashed => do
    Log.error .scan s!"vector {name} failed, its findings will not be reported"
    pure r

def runDetectors (c : Context) (r : Report) : List Detector → Logged Report
  | [] => pure r
  | d :: rest => do runDetectors c (← runDetector c r d) rest

def megabyte : Nat := 1024 * 1024

def recordPlace (disk : Disk) (path : String) (r : Report) : Report :=
  let absolute := (disk.absolute path).toOption.getD path
  r.setMetadata "apk_filepath_absolute" (.string absolute) true

def recordStart (bytes : Nat) (o : Occasion) (r : Report) : Report :=
  let r := r.setMetadata "apk_file_size" (.float (.ofRatio false bytes megabyte)) true
  r.setMetadata "time_starting_analyze" (.string o.started) true

def recordSuccess (o : Occasion) (r : Report) : Report :=
  let r := r.setMetadata "vector_total_count" (.int r.totalFindings) true
  let r := r.setMetadata "time_total" (.float o.total) true
  let r := r.setMetadata "time_analyze" (.float o.analysis) true
  let r := r.setMetadata "time_loading_vm" (.float o.loading) true
  (r.setStatus .success).setMetadata "time_finish_analyze" (.string o.finished) true

def analyze (engine : Engine) (c : Context) (o : Occasion) (r : Report) : Logged Report := do
  let r := (r.setStatus .startingAnalysis).setStatus .loadingDetectors
  let selected := engine.catalogue.select engine.options.debugTag
  if selected.isEmpty then Log.warning .scan "no vector selected for the analysis"
  let r ← runDetectors c (r.setStatus .runningDetectors) selected
  pure (recordSuccess o r)

def audit (engine : Engine) (load : Loader) (machine : Machine) (path : String)
    (fingerprint : Fingerprint) (o : Occasion) (r : Report) :
    Logged (Except Failure Unit × Report × Machine) := do
  match ← load machine path with
  | (.error failure, machine) => pure (.error failure, r, machine)
  | (.ok package, machine) => do
    let r := r.setStatus .startingPackage
    match ← Context.build package path fingerprint engine.exclusions r with
    | (.error failure, r) => pure (.error failure, r, machine)
    | (.ok context, r) => pure (.ok (), ← engine.analyze context o r, machine)

/-- The steps of a scan.  The package file must exist, and it must be possible to read it. -/
def run (engine : Engine) (load : Loader) (machine : Machine) (path : String) (o : Occasion)
    (r : Report) : Logged (Except Failure Unit × Report × Machine) :=
  let r := r.setStatus .loadingPackage
  if machine.disk.isFile path then
    let r := recordPlace machine.disk path r
    match machine.disk.size path with
    | .error e => pure (.error e.failure, r, machine)
    | .ok bytes =>
      let r := recordStart bytes o r
      match machine.disk.fingerprint path with
      | .error failure => pure (.error failure, r, machine)
      | .ok fingerprint => engine.audit load machine path fingerprint o r
  else pure (.error (.ofFault (.packageMissing path)), r, machine)

def describe (failure : Failure) : String × Bool × String :=
  match failure.fault? with
  | some fault => (fault.id, fault.isExpected, fault.message)
  | none => (unexpectedErrorId, false, failure.message)

def needsDetail (failure : Failure) : Bool :=
  match failure.fault? with
  | some fault => fault.needsDetail
  | none => true

def recordFailure (failure : Failure) (o : Occasion) (r : Report) : Report :=
  let (id, expected, message) := describe failure
  let trace := String.intercalate "\ncaused by: " failure.messages
  let r :=
    if needsDetail failure then r.setMetadata "analyze_error_detail_traceback" (.string trace) true
    else r
  let r := r.setMetadata "analyze_error_type_expected" (.bool expected) true
  let r := r.setMetadata "analyze_error_time" (.string o.failed) true
  let r := r.setMetadata "analyze_error_id" (.string id) true
  let r := r.setMetadata "analyze_error_message" (.string message) true
  (r.setStatus .fail).complete

def signature (r : Report) (s : Seal) (key otherwise : String) : Json :=
  .string (s.signature (r.metadata.textOr key otherwise) (r.metadata.textOr "file_sha256" "sha256"))

def recordOptions (options : ScanOptions) (r : Report) : Report :=
  let tag : Json :=
    match options.tag with
    | some tag => .string tag
    | none => .null
  let r := r.setMetadata "analyze_mode" (.string options.mode) true
  let r := r.setMetadata "analyze_engine_build" (.int options.engineBuild) true
  r.setMetadata "analyze_tag" tag true

def finish (o : Occasion) (r : Report) : Report :=
  let r := r.complete
  r.setMetadata "signature_unique_analyze" (signature r o.scanSeal "package_name" "pkg") true

def abandon (failure : Failure) (o : Occasion) (r : Report) : Report :=
  let r := recordFailure failure o r
  let analysis := signature r o.scanSeal "package_name" "pkg"
  let exception := signature r o.failureSeal "analyze_error_id" "err"
  let r := r.setMetadata "signature_unique_analyze" analysis true
  r.setMetadata "signature_unique_exception" exception true

def scan (engine : Engine) (load : Loader) (machine : Machine) (path : String) (o : Occasion) :
    Logged (Report × Machine) := do
  match ← engine.run load machine path o (recordOptions engine.options .empty) with
  | (.ok (), r, machine) => do
    let r := finish o r
    let total := r.totalFindings
    Log.info .scan s!"Analysis of {path} finished with {total} findings."
    pure (r, machine)
  | (.error failure, r, machine) => do
    let message := failure.message
    Log.error .scan s!"Analysis of {path} failed: {message}"
    pure (abandon failure o r, machine)

end Engine

end ApkAudit
