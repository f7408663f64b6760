/-!
What can be wrong with an XML document.
-/

namespace ApkAudit.Xml

inductive Error where
  | invalidBytes
  | unknownEncoding (name : String)
  | unexpected (text : String)
  | invalidCharacter
  | invalidName (text : String)
  | reservedName (text : String)
  | unboundName (text : String)
  | repeatedAttribute (text : String)
  | mismatchedTag (text : String)
  | unknownEntity (name : String)
  | invalidReference (text : String)
  | entitiesTooDeep
  | invalidDeclaration (text : String)
  | unexpectedEnd
deriving DecidableEq, Repr

def Error.message : Error → String
  | invalidBytes => "the document is not text in its encoding"
  | unknownEncoding name => s!"unsupported encoding: {name}"
  | unexpected text => s!"unexpected: {text}"
  | invalidCharacter => "a character that documents may not hold"
  | invalidName text => s!"invalid name: {text}"
  | reservedName text => s!"reserved name: {text}"
  | unboundName text => s!"the namespace of a name is not declared: {text}"
  | repeatedAttribute text => s!"repeated attribute: {text}"
  | mismatchedTag text => s!"closing tag that closes nothing: {text}"
  | unknownEntity name => s!"unknown entity: {name}"
  | invalidReference text => s!"invalid character reference: {text}"
  | entitiesTooDeep => "entities refer to each other too deeply"
  | invalidDeclaration text => s!"invalid declaration: {text}"
  | unexpectedEnd => "unexpected end of the document"

end ApkAudit.Xml
