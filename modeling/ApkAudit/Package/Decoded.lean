import ApkAudit.Disk.Basic
import ApkAudit.Log
import ApkAudit.Package.Basic
import ApkAudit.Package.BuildValues
import ApkAudit.Smali.Source

/-!
Packages that have been decoded into a folder: a manifest, a file with build values, and folders of
disassembled code.
-/

namespace ApkAudit.Package

def readManifest (disk : Disk) (folder : String) : Except Failure Element :=
  let path := Path.join folder "AndroidManifest.xml"
  match disk.get path with
  | .error e => .error (e.failure.within s!"could not open {path}")
  | .ok (.locked _) => .error (DiskError.denied.failure.within s!"could not open {path}")
  | .ok (.folder _ _) =>
    .error (.ofFault (.parse ("invalid XML document: " ++ DiskError.isFolder.message)))
  | .ok (.file content) => (Element.ofBytes content).mapError Failure.ofFault

/-- Reads the build values of a decoded folder.  Without them, or if they are malformed, there are
none. -/
def readBuildValues (disk : Disk) (folder : String) : Logged BuildValues :=
  match disk.readText (Path.join folder "apktool.yml") with
  | .error e => do
    let message := e.message
    Log.debug .decoding s!"no apktool.yml in {folder}: {message}"
    pure {}
  | .ok text =>
    match BuildValues.read text with
    | .ok values => pure values
    | .error fault => do
      let message := fault.message
      Log.warning .notices s!"{message}, its values will be ignored"
      pure {}

def isCodeFolder (name : String) : Bool :=
  name == "smali" || (Text.dropStart? "smali_classes".toList name.toList).isSome

def isSource (names : List String) : Bool :=
  match names.getLast? with
  | some name => Path.extension? name == some "smali"
  | none => false

def sourceFiles (entries : List (String × Node)) : List (List String × Option ByteArray) :=
  let folders := entries.filter fun (name, node) => node.isFolder && isCodeFolder name
  ((Node.filesIn folders).filter fun (names, _) => isSource names).mergeSort fun a b =>
    !Path.namesBefore b.1 a.1

def sourceText : Option ByteArray → Except DiskError String
  | some content => Disk.textOf content
  | none => .error .denied

/-- Indexes source files one after the other.  A file that cannot be read, or is no text, is left
out. -/
def indexSources (folder : String) (index : CodeIndex) :
    List (List String × Option ByteArray) → Logged CodeIndex
  | [] => pure index
  | (names, content) :: rest =>
    match sourceText content with
    | .ok source => indexSources folder (index.addSource source) rest
    | .error e => do
      let path := Path.join folder (String.intercalate "/" names)
      let message := e.message
      Log.warning .notices s!"could not read `{path}`, its code will not be indexed: {message}"
      indexSources folder index rest

def readCode (disk : Disk) (folder : String) : Logged (Except Failure CodeIndex) :=
  match disk.get folder with
  | .error e => pure (.error (e.failure.within s!"could not read {folder}"))
  | .ok (.folder _ entries) => do
    let sources := sourceFiles entries
    let count := sources.length
    Log.debug .code s!"indexing {count} smali files"
    return .ok (← indexSources folder .empty sources)
  | .ok _ => pure (.error (DiskError.notFolder.failure.within s!"could not read {folder}"))

def sdkOf (manifest : Element) (name : String) : Option String :=
  (manifest.findAll "uses-sdk").findSome? fun e => e.android? name

def requestedPermissions (manifest : Element) : List String :=
  permissionSet ((manifest.findAll "uses-permission" ++
    manifest.findAll "uses-permission-sdk-23").filterMap fun e => e.android? "name")

/-- The package of a manifest: what the manifest does not say comes from the build values. -/
def assemble (manifest : Element) (values : BuildValues) (codeUnits : Nat) (index : CodeIndex) :
    Package where
  packageName := (manifest.plain? "package").getD ""
  versionName := manifest.android? "versionName" <|> values.versionName
  versionCode := manifest.android? "versionCode" <|> values.versionCode
  minSdk := sdkOf manifest "minSdkVersion" <|> values.minSdk
  targetSdk := sdkOf manifest "targetSdkVersion" <|> values.targetSdk
  manifest := manifest
  permissions := requestedPermissions manifest
  codeUnits := codeUnits
  index := index

def readDecoded (disk : Disk) (folder : String) (codeUnits : Nat) :
    Logged (Except Failure Package) :=
  match readManifest disk folder with
  | .error failure => pure (.error failure)
  | .ok manifest => do
    let values ← readBuildValues disk folder
    match ← readCode disk folder with
    | .error failure => pure (.error failure)
    | .ok index => pure (.ok (assemble manifest values codeUnits index))

end ApkAudit.Package
