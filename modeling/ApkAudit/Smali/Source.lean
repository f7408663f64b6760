import ApkAudit.Code.Index
import ApkAudit.Smali.Descriptor
import ApkAudit.Smali.Literal
import ApkAudit.Smali.Statement

/-!
Reading a source text of disassembled code into the code index.
-/

namespace ApkAudit.Smali

structure Cursor where
  className : Option String := none
  method : Option Method := none
  index : CodeIndex

/-- What a statement does.  A method header counts inside a class, a call or load in a method. -/
def Cursor.step (cursor : Cursor) : Statement → Cursor
  | .classHeader descriptor =>
    { cursor with className := some (String.ofList (classNameChars descriptor)) }
  | .methodHeader name descriptor =>
    match cursor.className with
    | none => cursor
    | some className =>
      let method := ⟨className, String.ofList name, String.ofList descriptor⟩
      { cursor with method := some method, index := cursor.index.declare method }
  | .endMethod => { cursor with method := none }
  | .call descriptor name signature =>
    match cursor.method with
    | none => cursor
    | some caller =>
      let callee : Method :=
        ⟨String.ofList (classNameChars descriptor), String.ofList name, String.ofList signature⟩
      { cursor with index := cursor.index.addCall caller callee }
  | .loadString register literal =>
    match cursor.method with
    | none => cursor
    | some reader =>
      let value := String.ofList (unescape literal)
      { cursor with index := cursor.index.addRead value reader (String.ofList register) }

def statements (source : String) : List Statement :=
  (Text.lines source.toList).filterMap fun line => Statement.read? (Text.trimChars line)

end ApkAudit.Smali

namespace ApkAudit

def CodeIndex.addSource (index : CodeIndex) (source : String) : CodeIndex :=
  ((Smali.statements source).foldl Smali.Cursor.step { index := index }).index

end ApkAudit
