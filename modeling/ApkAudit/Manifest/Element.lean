import ApkAudit.Failure
import ApkAudit.Xml.Document

/-!
The manifest as a tree of elements.
-/

namespace ApkAudit

structure Element where
  name : String
  attributes : List Xml.Attribute := []
  children : List Element := []

namespace Element

def androidUri : String := "http://schemas.android.com/apk/res/android"

def attribute? (uri : Option String) (name : String) (e : Element) : Option String :=
  (e.attributes.find? fun a => a.name = name && a.uri = uri).map Xml.Attribute.value

def plain? (name : String) (e : Element) : Option String :=
  e.attribute? none name

def android? (name : String) (e : Element) : Option String :=
  e.attribute? (some androidUri) name

def withAttribute (e : Element) (a : Xml.Attribute) : Element :=
  { e with attributes := e.attributes ++ [a] }

def withChild (e : Element) (child : Element) : Element :=
  { e with children := e.children ++ [child] }

mutual

def descendants : Element → List Element
  | ⟨name, attributes, children⟩ => ⟨name, attributes, children⟩ :: descendantsIn children

def descendantsIn : List Element → List Element
  | [] => []
  | child :: rest => child.descendants ++ descendantsIn rest

end

def findAll (tag : String) (e : Element) : List Element :=
  e.descendants.filter fun d => d.name = tag

/-- Builds the tree from events.  The open elements are kept innermost first; the answer is the
root as soon as it closes, and what follows is not looked at. -/
def build (opened : List Element) : List (Except Xml.Error Xml.Event) → Except Fault Element
  | [] => .error (.parse "the XML document has no root element")
  | .error e :: _ => .error (.parse s!"invalid XML document: {e.message}")
  | .ok .other :: rest => build opened rest
  | .ok (.opened name attributes) :: rest => build ({ name, attributes } :: opened) rest
  | .ok .closed :: rest =>
    match opened with
    | [] => .error (.parse "closing tag without opening tag")
    | [element] => .ok element
    | element :: parent :: outer => build (parent.withChild element :: outer) rest

def ofEvents (events : List (Except Xml.Error Xml.Event)) : Except Fault Element :=
  build [] events

def ofBytes (bytes : ByteArray) : Except Fault Element :=
  ofEvents (Xml.events bytes)

end Element

end ApkAudit
