import ApkAudit.Code.Method
import Std.Data.HashMap

/-!
The code index: every method that is declared or called, with its callers and callees, and every
string constant, with its readers.  Entries stand in the order of their first mention, and a map
gives the position of each.
-/

namespace ApkAudit

/-- A method in the index.  One that is only called is not declared. -/
structure MethodEntry where
  method : Method
  declared : Bool := false
  callers : List Method := []
  callees : List Method := []
deriving DecidableEq, Repr

structure StringEntry where
  value : String
  reads : List StringRead := []
deriving DecidableEq, Repr

structure CodeIndex where
  methods : List MethodEntry := []
  methodPositions : Std.HashMap Method Nat := ∅
  strings : List StringEntry := []
  stringPositions : Std.HashMap String Nat := ∅

namespace CodeIndex

def addNew {α : Type} [DecidableEq α] (item : α) (items : List α) : List α :=
  if item ∈ items then items else items ++ [item]

def empty : CodeIndex := {}

def place (index : CodeIndex) (m : Method) : Nat × CodeIndex :=
  match index.methodPositions[m]? with
  | some position => (position, index)
  | none =>
    (index.methods.length, { index with
      methods := index.methods ++ [{ method := m }]
      methodPositions := index.methodPositions.insert m index.methods.length })

def updateMethod (index : CodeIndex) (m : Method) (f : MethodEntry → MethodEntry) : CodeIndex :=
  let (position, index) := index.place m
  { index with methods := index.methods.modify position f }

def declare (index : CodeIndex) (m : Method) : CodeIndex :=
  index.updateMethod m fun e => { e with declared := true }

def addCall (index : CodeIndex) (caller callee : Method) : CodeIndex :=
  let index := index.updateMethod caller fun e => { e with callees := addNew callee e.callees }
  index.updateMethod callee fun e => { e with callers := addNew caller e.callers }

def addRead (index : CodeIndex) (value : String) (reader : Method) (register : String) :
    CodeIndex :=
  let read : StringRead := ⟨reader, register⟩
  match index.stringPositions[value]? with
  | some position =>
    let add (e : StringEntry) : StringEntry := { e with reads := addNew read e.reads }
    { index with strings := index.strings.modify position add }
  | none =>
    { index with
      strings := index.strings ++ [{ value := value, reads := [read] }]
      stringPositions := index.stringPositions.insert value index.strings.length }

def entry? (index : CodeIndex) (m : Method) : Option MethodEntry :=
  index.methodPositions[m]?.bind fun position => index.methods[position]?

def calleesOf (index : CodeIndex) (m : Method) : List Method :=
  match index.entry? m with
  | some e => e.callees
  | none => []

def methodsNamed (index : CodeIndex) (name : String) : List Method :=
  (index.methods.map MethodEntry.method).filter fun m => m.name = name

/-- The calls to methods with a name: method by method, each with its callers in order. -/
def callSitesTo (index : CodeIndex) (name : String) : List CallSite :=
  (index.methods.filter fun e => e.method.name = name).flatMap fun e =>
    e.callers.map fun caller => ⟨caller, e.method⟩

def readsOf (index : CodeIndex) (value : String) : List StringRead :=
  match index.stringPositions[value]?.bind fun position => index.strings[position]? with
  | some e => e.reads
  | none => []

end CodeIndex

end ApkAudit
