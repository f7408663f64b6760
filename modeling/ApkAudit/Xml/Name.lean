import ApkAudit.Text.Lines
import ApkAudit.Xml.Character

/-!
Qualified names, and the namespaces that their qualifiers stand for.
-/

namespace ApkAudit.Xml

structure QName where
  qualifier : Option String
  name : String
deriving DecidableEq, Repr

def QName.text (q : QName) : String :=
  match q.qualifier with
  | some qualifier => qualifier ++ ":" ++ q.name
  | none => q.name

def QName.ofChars? (cs : List Char) : Option QName :=
  match Text.splitChar ':' cs with
  | [name] => if name.isEmpty then none else some ⟨none, String.ofList name⟩
  | [qualifier, name] =>
    if qualifier.isEmpty || name.isEmpty then none
    else some ⟨some (String.ofList qualifier), String.ofList name⟩
  | _ => none

def xmlUri : String := "http://www.w3.org/XML/1998/namespace"
def xmlnsUri : String := "http://www.w3.org/2000/xmlns/"

def QName.isReserved (q : QName) : Bool :=
  q.qualifier = some "xml" || q.qualifier = some "xmlns"

abbrev Scope := List (String × String)

def lookupUri (scopes : List Scope) (qualifier : String) : Option String :=
  match scopes.findSome? fun scope => scope.lookup qualifier with
  | some uri => some uri
  | none => [("xml", xmlUri), ("xmlns", xmlnsUri), ("", "")].lookup qualifier

/-- The first declaration of a qualifier in a tag counts. -/
def Scope.declare (scope : Scope) (qualifier uri : String) : Scope :=
  if (scope.lookup qualifier).isSome then scope else scope ++ [(qualifier, uri)]

end ApkAudit.Xml
