import ApkAudit.Failure
import ApkAudit.Text.Blank
import ApkAudit.Yaml.Value

/-!
The values file that the decoding tool leaves beside the manifest: platform levels and version.
-/

namespace ApkAudit

structure BuildValues where
  minSdk : Option String := none
  targetSdk : Option String := none
  versionCode : Option String := none
  versionName : Option String := none
deriving DecidableEq, Repr

namespace BuildValues

def body (text : String) : List Char :=
  let isTag (line : List Char) : Bool :=
    (Text.dropStart? ['!', '!'] (Text.trimStartChars line)).isSome
  List.intercalate ['\n'] ((Text.lines text.toList).dropWhile isTag)

def sectionDepth : Nat := 2

def text? (document : Yaml.Document) (fields : List (String × Yaml.Node)) (name : String) :
    Yaml.Visit (Option String) := do
  match ← document.field? name fields with
  | none => return none
  | some node =>
    let value ← document.value (Yaml.Document.maxDepth - sectionDepth) node
    return value.text?.filter fun text => !Text.isBlankText text

def section? (document : Yaml.Document) (fields : List (String × Yaml.Node)) (name : String) :
    Yaml.Visit (List (String × Yaml.Node)) := do
  match ← document.field? name fields with
  | some node => document.fields node
  | none => return []

def ofRoot (document : Yaml.Document) (root : Yaml.Node) : Yaml.Visit BuildValues := do
  let fields ← document.fields root
  let sdk ← section? document fields "sdkInfo"
  let version ← section? document fields "versionInfo"
  return {
    minSdk := ← text? document sdk "minSdkVersion"
    targetSdk := ← text? document sdk "targetSdkVersion"
    versionCode := ← text? document version "versionCode"
    versionName := ← text? document version "versionName" }

def ofDocument (document : Yaml.Document) : Except Yaml.Error BuildValues :=
  match document.root with
  | none => .ok {}
  | some root => (ofRoot document root).run' 0

def read (text : String) : Except Fault BuildValues :=
  match Yaml.document (body text) >>= ofDocument with
  | .ok values => .ok values
  | .error e => .error (.parse ("invalid apktool.yml: " ++ e.message))

end BuildValues

end ApkAudit
