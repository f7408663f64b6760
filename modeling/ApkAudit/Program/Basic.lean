import ApkAudit.Audit.Scan
import ApkAudit.Detectors.All
import ApkAudit.Program.LogFilter
import ApkAudit.Program.Settings
import ApkAudit.Program.Usage
import ApkAudit.Report.File

/-!
The program: from its arguments and the machine it runs on to what it says, its exit code, and what
it leaves on the machine.
-/

namespace ApkAudit.Program

/-! Scanning with settings -/

def Settings.engine (s : Settings) (catalogue : Catalogue) : Engine where
  catalogue := catalogue
  exclusions := Exclusions.ofPatterns s.exclusions
  options := { mode := s.mode, engineBuild := s.engineBuild, tag := s.tag, debugTag := s.debugTag }

def Settings.decoding (s : Settings) : Decoding where
  tool := s.tool
  folder := s.distFolder
  force := s.force

def Settings.scan (s : Settings) (catalogue : Catalogue) (machine : Machine) (package : String)
    (o : Occasion) : Logged (Report × Machine) :=
  (s.engine catalogue).scan s.decoding.load machine package o

def Settings.reportFile (s : Settings) (package : String) : String :=
  Report.file s.resultsFolder (Package.fileName package)

def Settings.save (s : Settings) (report : Report) (machine : Machine) (package : String) :
    Logged (Except Failure Unit × Machine) := do
  if s.json then
    let (saved, disk) ← report.save machine.disk s.resultsFolder (Package.fileName package)
    pure (saved, { machine with disk := disk })
  else pure (.ok (), machine)

/-! What is said -/

def catalogueLines (catalogue : Catalogue) : List String :=
  catalogue.detectors.flatMap fun d =>
    let name := d.name
    let description := d.description
    s!"{name}: {description}" :: d.tags.map fun tag => "    " ++ tag

def findingLines (f : Finding) : List String :=
  let level := f.level.text
  let tag := f.tag
  let title := f.title
  s!"[{level}] <{tag}> {title}" :: ("        " ++ f.description) ::
    f.details.map fun line => "            " ++ line

def reportLines (r : Report) : List String :=
  let total := r.totalFindings
  [""] ++ (r.metadata.printable.map fun (key, value) => key ++ ": " ++ value.plain) ++
    [""] ++ r.findings.flatMap findingLines ++
    ["", s!"Total findings: {total}"]

def Settings.unlessQuiet (s : Settings) (lines : List String) : List String :=
  if s.quiet then [] else lines

def failureLines (failure : Failure) : List String :=
  ("Error: " ++ failure.message) :: failure.inner.map fun cause => "\tCaused by: " ++ cause.message

/-! Running -/

structure Run where
  output : List String := []
  outcome : Except Failure Unit := .ok ()
  machine : Machine

def scanPackage (s : Settings) (catalogue : Catalogue) (machine : Machine) (package : String)
    (o : Occasion) : Logged Run := do
  let start := s.unlessQuiet ["", s!"Starting analysis of {package}."]
  let (report, machine) ← s.scan catalogue machine package o
  let printed := if s.print then reportLines report else []
  match ← s.save report machine package with
  | (.error failure, machine) =>
    pure { output := start ++ printed, outcome := .error failure, machine := machine }
  | (.ok (), machine) =>
    let file := s.reportFile package
    let status := report.status.text
    let written := if s.json then s.unlessQuiet [s!"Report written to {file}."] else []
    let finish := s.unlessQuiet [s!"Analysis status: {status}."]
    pure { output := start ++ printed ++ written ++ finish, machine := machine }

def run (a : Arguments) (s : Settings) (machine : Machine) (o : Occasion) : Logged Run := do
  s.files.forM fun file => Log.info .program s!"Configuration loaded from {file}."
  let catalogue ← Catalogue.ofFactories Detectors.all
  if a.list then pure { output := catalogueLines catalogue, machine := machine }
  else
    match a.package with
    | none => pure { machine := machine }
    | some package => scanPackage s catalogue machine package o

structure Response where
  exitCode : UInt32 := 0
  output : List String := []
  errors : List String := []
  machine : Machine

/-- Runs the program with settings that are known, and shows its log.  What is wrong with the
specification of the log is said first. -/
def respondWith (a : Arguments) (s : Settings) (logSpec : Option String) (machine : Machine)
    (o : Occasion) : Response :=
  let (filter, warnings) :=
    match logSpec with
    | some spec => LogFilter.ofSpec spec
    | none => (LogFilter.ofVerbosity s.verbose, [])
  let done := run a s machine o
  let shown := filter.lines done.log
  let r := done.value
  let output := warnings ++ r.output
  match r.outcome with
  | .ok () => { output := output, errors := shown, machine := r.machine }
  | .error failure =>
    { exitCode := 1, output := output, errors := shown ++ failureLines failure,
      machine := r.machine }

/-- Runs the program.  The log of reading the settings is never shown. -/
def respond (arguments : List String) (logSpec : Option String) (machine : Machine)
    (o : Occasion) : Response :=
  match Arguments.parse arguments with
  | .error .help => { output := help, machine := machine }
  | .error .version => { output := [title], machine := machine }
  | .error refusal => { exitCode := 1, errors := refusal.lines, machine := machine }
  | .ok a =>
    match (Settings.load machine.disk a).value with
    | .error failure => { exitCode := 1, errors := failureLines failure, machine := machine }
    | .ok s => respondWith a s logSpec machine o

end ApkAudit.Program
