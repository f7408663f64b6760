import ApkAudit.Audit.Detector

/-!
Broadcast listeners: an app that is told about packages coming and going learns what is installed.
Receivers in the manifest and receivers registered at run time have tags of their own.
-/

namespace ApkAudit.Detectors.Broadcast

structure Listener where
  tag : String
  dynamicTag : String
  actions : List String
  title : String
  dynamicTitle : String
  event : String
deriving DecidableEq, Repr

def added : Listener where
  tag := "LISTEN_PACKAGE_ADDED"
  dynamicTag := "DYNAMIC_LISTEN_PACKAGE_ADDED"
  actions := ["android.intent.action.PACKAGE_ADDED", "android.intent.action.PACKAGE_INSTALL"]
  title := "App Listens for Added Applications"
  dynamicTitle := "App Registers a Listener for Added Applications at Runtime"
  event := "installed"

def changed : Listener where
  tag := "LISTEN_PACKAGE_CHANGED"
  dynamicTag := "DYNAMIC_LISTEN_PACKAGE_CHANGED"
  actions := ["android.intent.action.PACKAGE_CHANGED"]
  title := "App Listens for Changed Applications"
  dynamicTitle := "App Registers a Listener for Changed Applications at Runtime"
  event := "changed"

def replaced : Listener where
  tag := "LISTEN_PACKAGE_REPLACED"
  dynamicTag := "DYNAMIC_LISTEN_PACKAGE_REPLACED"
  actions := ["android.intent.action.PACKAGE_REPLACED"]
  title := "App Listens for Replaced Applications"
  dynamicTitle := "App Registers a Listener for Replaced Applications at Runtime"
  event := "replaced"

def removed : Listener where
  tag := "LISTEN_PACKAGE_REMOVED"
  dynamicTag := "DYNAMIC_LISTEN_PACKAGE_REMOVED"
  actions :=
    ["android.intent.action.PACKAGE_REMOVED", "android.intent.action.PACKAGE_FULLY_REMOVED"]
  title := "App Listens for Removed Applications"
  dynamicTitle := "App Registers a Listener for Removed Applications at Runtime"
  event := "removed"

def listeners : List Listener := [added, changed, replaced, removed]

def listenerOf? (action : String) : Option Listener :=
  listeners.find? fun l => l.actions.contains action

def receiverName (receiver : Element) : String :=
  (receiver.android? "name").getD "(unnamed)"

/-- The actions that a receiver filters for, as often as filters around them do. -/
def filteredActions (receiver : Element) : List Element :=
  (receiver.findAll "intent-filter").flatMap (Element.findAll "action")

def receiverActions (manifest : Element) : List (String × Element) :=
  (manifest.findAll "receiver").flatMap fun receiver =>
    (filteredActions receiver).map fun action => (receiverName receiver, action)

def manifestFinding? (receiver : String) (action : Element) : Option Finding := do
  let l ← listenerOf? (← action.android? "name")
  let event := l.event
  some {
    tag := l.tag
    level := .warning
    title := l.title
    description := s!"This app is notified when an application is {event} on the device."
    details := [s!"Receiver: {receiver}"] }

def manifestFindings (manifest : Element) : List Finding :=
  (receiverActions manifest).filterMap fun (receiver, action) => manifestFinding? receiver action

def problems (manifest : Element) : List String :=
  (receiverActions manifest).filterMap fun (receiver, action) =>
    if (action.android? "name").isNone then some s!"action without name in receiver {receiver}"
    else none

def registers (callee : Method) : Bool :=
  (callee.className = "android.content.IntentFilter" &&
    (callee.name = "<init>" || callee.name = "addAction")) || callee.name = "registerReceiver"

def registersReceiver (c : Context) (reader : Method) : Bool :=
  reader.name = "onReceive" || (c.index.calleesOf reader).any registers

def locations (c : Context) (l : Listener) : List Method :=
  let reads := l.actions.flatMap fun action => c.exclusions.keepReads (c.index.readsOf action)
  let readers := (reads.map StringRead.reader).filter (registersReceiver c)
  readers.foldl (fun found reader => CodeIndex.addNew reader found) []

def dynamicFinding? (c : Context) (l : Listener) : Option Finding :=
  let found := locations c l
  let event := l.event
  if found.isEmpty then none
  else
    some {
      tag := l.dynamicTag
      level := .notice
      title := l.dynamicTitle
      description := "This app registers at runtime a receiver that is notified when an " ++
        s!"application is {event} on the device."
      details := found.map Method.display }

def findings (c : Context) : List Finding :=
  manifestFindings c.manifest ++ listeners.filterMap (dynamicFinding? c)

def tags : List String :=
  ["LISTEN_PACKAGE_ADDED", "LISTEN_PACKAGE_CHANGED", "LISTEN_PACKAGE_REPLACED",
    "LISTEN_PACKAGE_REMOVED", "DYNAMIC_LISTEN_PACKAGE_ADDED", "DYNAMIC_LISTEN_PACKAGE_CHANGED",
    "DYNAMIC_LISTEN_PACKAGE_REPLACED", "DYNAMIC_LISTEN_PACKAGE_REMOVED"]

def detector : Detector where
  name := "broadcast"
  tags := tags
  description := "Checks for which broadcasts the app listens to."
  analyze c := .ofFindings (findings c) (problems c.manifest)

end ApkAudit.Detectors.Broadcast
