/-!
References into code: methods, calls between them, and reads of string constants.
-/

namespace ApkAudit

structure Method where
  className : String
  name : String
  descriptor : String
deriving DecidableEq, Hashable, Repr

def Method.display (m : Method) : String :=
  m.className ++ "->" ++ m.name ++ m.descriptor

structure CallSite where
  caller : Method
  callee : Method
deriving DecidableEq, Repr

structure StringRead where
  reader : Method
  register : String
deriving DecidableEq, Repr

end ApkAudit
