import ApkAudit.Disk.Basic
import ApkAudit.Exclusions
import ApkAudit.Log
import ApkAudit.Number.Numeral
import ApkAudit.Program.Arguments
import ApkAudit.Toml.Document

/-!
The settings of a run: defaults, then the configuration file, then the arguments.
-/

namespace ApkAudit.Program

structure Settings where
  verbose : Bool := false
  quiet : Bool := false
  force : Bool := false
  print : Bool := false
  json : Bool := true
  resultsFolder : String := "results"
  distFolder : String := "dist"
  tool : String := "vendor/apktool.jar"
  mode : String := "single"
  engineBuild : Nat := 1
  tag : Option String := none
  debugTag : Option String := none
  exclusions : List String := Exclusions.defaultPatterns
  files : List String := []

namespace Settings

/-! Defaults -/

def sharedFolder : String := "/usr/share/apk-vectors"

/-- The decoding tool is the installed one, if there is any. -/
def defaults (disk : Disk) : Settings :=
  if disk.has sharedFolder then
    { tool := Path.join (Path.join sharedFolder "vendor") "apktool.jar" }
  else {}

/-! The configuration file -/

inductive FileError where
  | document (e : Toml.Error)
  | repeated (field : String)
  | wrongType (field : String)
deriving DecidableEq, Repr

def FileError.message : FileError → String
  | document e => e.message
  | repeated field => s!"duplicate field {field}"
  | wrongType field => s!"invalid type for key {field}"

/-- The value of a field at the top of a document.  A table under a header is no value. -/
def field? (document : Toml.Document) (name : String) : Except FileError (Option Toml.Value) :=
  if document.blocks.any fun block => block.path.head? = some name then .error (.wrongType name)
  else
    match document.members.filter fun member => member.1 = name with
    | [] => .ok none
    | [(_, value)] => .ok (some value)
    | _ => .error (.repeated name)

def boolean (document : Toml.Document) (name : String) (otherwise : Bool) :
    Except FileError Bool := do
  match ← field? document name with
  | none => return otherwise
  | some (.boolean b) => return b
  | some _ => throw (.wrongType name)

def text? (document : Toml.Document) (name : String) : Except FileError (Option String) := do
  match ← field? document name with
  | none => return none
  | some (.text s) => return some s
  | some _ => throw (.wrongType name)

def text (document : Toml.Document) (name otherwise : String) : Except FileError String := do
  return (← text? document name).getD otherwise

def number (document : Toml.Document) (name : String) (otherwise : Nat) :
    Except FileError Nat := do
  match ← field? document name with
  | none => return otherwise
  | some (.integer n) =>
    if 0 ≤ n ∧ n ≤ Number.maxUInt32 then return n.toNat else throw (.wrongType name)
  | some _ => throw (.wrongType name)

def texts (document : Toml.Document) (name : String) (otherwise : List String) :
    Except FileError (List String) := do
  match ← field? document name with
  | none => return otherwise
  | some (.array items) =>
    items.mapM fun
      | .text s => .ok s
      | _ => .error (.wrongType name)
  | some _ => throw (.wrongType name)

/-- The settings of a document, on top of the defaults.  Other fields do not count. -/
def ofDocument (d : Settings) (document : Toml.Document) : Except FileError Settings := do
  return {
    verbose := ← boolean document "verbose" d.verbose
    quiet := ← boolean document "quiet" d.quiet
    force := ← boolean document "force" d.force
    print := ← boolean document "print" d.print
    json := ← boolean document "json" d.json
    resultsFolder := ← text document "results_folder" d.resultsFolder
    distFolder := ← text document "dist_folder" d.distFolder
    tool := ← text document "apktool_file" d.tool
    mode := ← text document "analyze_mode" d.mode
    engineBuild := ← number document "analyze_engine_build" d.engineBuild
    tag := ← text? document "analyze_tag"
    debugTag := ← text? document "debug_vector"
    exclusions := ← texts document "exclusions" d.exclusions }

def ofToml (d : Settings) (source : String) : Except FileError Settings := do
  ofDocument d (← (Toml.Document.read source).mapError FileError.document)

def ofFile (disk : Disk) (path : String) : Except Failure Settings :=
  match disk.readText path with
  | .error e => .error (e.failure.within s!"could not read {path}")
  | .ok source =>
    match ofToml (defaults disk) source with
    | .ok settings => .ok { settings with files := [path] }
    | .error e =>
      let message := e.message
      .error (.ofFault (.configuration s!"{path}: {message}"))

/-! The arguments -/

def overlay (s : Settings) (a : Arguments) (engineBuild : Nat) : Settings where
  verbose := s.verbose || a.verbose
  quiet := s.quiet || a.quiet
  force := s.force || a.force
  print := s.print || a.print
  json := s.json || a.json
  resultsFolder := a.results.getD s.resultsFolder
  distFolder := a.dist.getD s.distFolder
  tool := a.tool.getD s.tool
  mode := a.mode.getD s.mode
  engineBuild := engineBuild
  tag := a.tag <|> s.tag
  debugTag := a.debugTag <|> s.debugTag
  exclusions := if a.exclusions.isEmpty then s.exclusions else a.exclusions
  files := s.files

def buildNumber (s : Settings) (a : Arguments) : Except Fault Nat :=
  match a.engineBuild with
  | none => .ok s.engineBuild
  | some build =>
    match Number.readUInt32 build with
    | .ok n => .ok n
    | .error problem =>
      let message := problem.message
      .error (.configuration s!"invalid engine build number `{build}`: {message}")

def apply (s : Settings) (a : Arguments) : Except Fault Settings := do
  let settings := s.overlay a (← s.buildNumber a)
  if settings.verbose && settings.quiet then
    throw (.configuration "the verbose and quiet modes can not be used at the same time")
  return settings

/-! Both -/

def configurationFile : String := "config.toml"

def globalConfigurationFile : String := "/etc/apk-vectors/config.toml"

/-- The configuration file of a run: the one in the working folder stands before the global one. -/
def configuration? (disk : Disk) : Option String :=
  [configurationFile, globalConfigurationFile].find? fun path => disk.has path

def initial (disk : Disk) : Logged (Except Failure Settings) :=
  match configuration? disk with
  | some path =>
    pure (Outcome.within s!"there was an error when reading the {path} file" (ofFile disk path))
  | none => do
    Log.warning .notices "Config file not found. Using default configuration"
    pure (.ok (defaults disk))

def load (disk : Disk) (a : Arguments) : Logged (Except Failure Settings) := do
  let start ← initial disk
  pure (start.bind fun s =>
    Outcome.within "there was an error reading config from CLI"
      ((s.apply a).mapError Failure.ofFault))

end Settings

end ApkAudit.Program
