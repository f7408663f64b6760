/-!
Events of an XML document: what opens and closes, in document order.
-/

namespace ApkAudit.Xml

structure Attribute where
  uri : Option String
  name : String
  value : String
deriving DecidableEq, Repr

inductive Event where
  | opened (name : String) (attributes : List Attribute)
  | closed
  | other
deriving DecidableEq, Repr

end ApkAudit.Xml
