import ApkAudit.Audit.Detector

/-!
Package queries: apps that ask which packages are installed.  From level 30 on an app sees the
packages that its manifest names, unless it may query all of them; below, it sees every package.
-/

namespace ApkAudit.Detectors.PackageQueries

/-- The platform level from which on packages are hidden from each other. -/
def visibilitySdk : Nat := 30

def queryAllPermission : String := "android.permission.QUERY_ALL_PACKAGES"

def queryMethods : List String :=
  ["queryIntentActivities", "getInstalledApplications", "getPackageInfo"]

def querySites (c : Context) : List CallSite :=
  queryMethods.flatMap fun name => c.exclusions.keepCalls (c.index.callSitesTo name)

def distinctCallers (sites : List CallSite) : List CallSite :=
  sites.foldl
    (fun kept site => if kept.any (·.caller = site.caller) then kept else kept ++ [site]) []

def callLine (site : CallSite) : String :=
  site.caller.display ++ " calls " ++ site.callee.name

def callLines (sites : List CallSite) : List String :=
  (distinctCallers sites).map callLine

structure QueriedIntent where
  action : String
  dataType : Option String
deriving DecidableEq, Repr

def QueriedIntent.text (i : QueriedIntent) : String :=
  match i.dataType with
  | some dataType => i.action ++ " using the data type " ++ dataType
  | none => i.action

def firstAttribute? (tag name : String) (e : Element) : Option String :=
  (e.findAll tag).head?.bind (Element.android? name)

def intent? (e : Element) : Option QueriedIntent :=
  (firstAttribute? "action" "name" e).map fun action =>
    ⟨action, firstAttribute? "data" "mimeType" e⟩

def packageElements (manifest : Element) : List (List Element × List Element) :=
  (manifest.findAll "queries").map fun q => (q.findAll "package", q.findAll "intent")

def queriedPackages (manifest : Element) : List String :=
  (packageElements manifest).flatMap fun q => q.1.filterMap (Element.android? "name")

def queriedIntents (manifest : Element) : List QueriedIntent :=
  (packageElements manifest).flatMap fun q => q.2.filterMap intent?

def queryProblems (manifest : Element) : List String :=
  (packageElements manifest).flatMap fun q =>
    (q.1.filter fun e => (e.android? "name").isNone).map
      (fun _ => "queried package without name") ++
      (q.2.filter fun e => (intent? e).isNone).map fun _ => "queried intent without action"

def queryAll : Finding where
  tag := "QUERY_ALL_PACKAGES"
  level := .critical
  title := "App Has Permission to Query All Packages"
  description := "This app has the permission QUERY_ALL_PACKAGES declared in its " ++
    "AndroidManifest. Caution is advised."

def queryUnknown (sites : List CallSite) : Finding where
  tag := "QUERY_UNKNOWN_PACKAGES"
  level := .critical
  title := "App Queries Installed Application(s)"
  description := "This app queries the device and knows about the applications that are " ++
    "installed. Cannot tell which applications because SDK version is below 30. Caution is advised."
  details := callLines sites

def queryIntent (intents : List QueriedIntent) : Finding where
  tag := "QUERY_INTENT"
  level := .warning
  title := "App Queries Application Intent(s)"
  description := "This app queries the device and knows about the applications that use the " ++
    "below intent and (un)detected data type. Caution is advised."
  details := intents.map QueriedIntent.text

def queryPackage (packages : List String) : Finding where
  tag := "QUERY_PACKAGE"
  level := .warning
  title := "App Queries Installed Application(s)"
  description := "This app queries the device and knows if the applications below are " ++
    "installed. Caution is advised."
  details := packages

def queryPermission (sites : List CallSite) : Finding where
  tag := "QUERY_PERMISSION"
  level := .warning
  title := "App Has No Permission to Query Installed Application(s)"
  description := "This app tries to query the device for installed applications without having " ++
    "the permission. The app might not behave correctly."
  details := callLines sites

def isFiltered (c : Context) : Bool :=
  c.sdkAtLeast visibilitySdk

def declaredFindings (manifest : Element) (sites : List CallSite) : List Finding :=
  let intents := queriedIntents manifest
  let packages := queriedPackages manifest
  (if intents.isEmpty then [] else [queryIntent intents]) ++
    [if packages.isEmpty then queryPermission sites else queryPackage packages]

def findings (c : Context) : List Finding :=
  let sites := querySites c
  (if isFiltered c && c.hasPermission queryAllPermission then [queryAll] else []) ++
    if sites.isEmpty then []
    else if isFiltered c then declaredFindings c.manifest sites
    else [queryUnknown sites]

def problems (c : Context) : List String :=
  if (querySites c).isEmpty || !isFiltered c then [] else queryProblems c.manifest

def tags : List String :=
  ["QUERY_ALL_PACKAGES", "QUERY_INTENT", "QUERY_PACKAGE", "QUERY_PERMISSION",
    "QUERY_UNKNOWN_PACKAGES"]

def detector : Detector where
  name := "packages"
  tags := tags
  description := "Checks for package queries performed by the app."
  analyze c := .ofFindings (findings c) (problems c)

end ApkAudit.Detectors.PackageQueries
