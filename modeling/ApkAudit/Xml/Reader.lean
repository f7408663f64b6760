import ApkAudit.Number.Numeral
import ApkAudit.Text.CodePoint
import ApkAudit.Xml.Event
import ApkAudit.Xml.Name
import ApkAudit.Xml.Token

/-!
From tokens to events: a machine that reads one token at a time, keeps the open elements and the
namespaces in scope, and refuses what is not well formed.
-/

namespace ApkAudit.Xml

structure Tag where
  name : QName
  attributes : List (QName × String) := []
  scope : Scope := []
deriving Repr

inductive Pseudo where
  | version
  | encoding
  | standalone
deriving DecidableEq, Repr

def Pseudo.initial : Pseudo → Char
  | version => 'v'
  | encoding => 'e'
  | standalone => 's'

def Pseudo.rest : Pseudo → String
  | version => "ersion"
  | encoding => "ncoding"
  | standalone => "tandalone"

inductive Doctype where
  | outside
  | literal (quote : Char)
  | comment
  | keyword (seen : List Char)
  | skipped
  | beforeName
  | parameterStart
  | name (seen : List Char)
  | beforeValue (name : String)
  | value (name : String) (quote : Char) (seen : List Char)
  | reference (name : String) (quote : Char) (seen : List Char)
  | number (name : String) (quote : Char) (seen digits : List Char)
  | parameterInValue (name : String) (quote : Char) (seen entity : List Char)
  | parameter (entity : List Char)
deriving Repr

inductive Place where
  | start
  | content
  | comment
  | cdata
  | openName (seen : List Char)
  | inTag (tag : Tag)
  | attributeName (tag : Tag) (seen : List Char)
  | afterAttributeName (tag : Tag) (name : QName)
  | attributeValue (tag : Tag) (name : QName) (quote : Option Char) (seen : List Char)
  | afterAttributeValue (tag : Tag)
  | closeName (seen : List Char)
  | afterCloseName (name : QName)
  | instructionName (seen : List Char)
  | instructionBody
  | beforePseudo (allowed : List Pseudo) (mayEnd : Bool)
  | afterPseudo (allowed : List Pseudo)
  | pseudoName (pseudo : Pseudo) (seen : List Char)
  | afterPseudoName (pseudo : Pseudo)
  | pseudoValue (pseudo : Pseudo) (quote : Option Char) (seen : List Char)
  | doctype (part : Doctype)
  | reference (seen : List Char) (back : Place)
deriving Repr

inductive Stage where
  | nothing
  | something
  | doctype
  | element
deriving DecidableEq, Repr

structure Reader where
  place : Place := .start
  stage : Stage := .nothing
  openTags : List QName := []
  scopes : List Scope := []
  entities : List (String × List Char) := []
  version : Version := .v10
  encoding : Option String := none

/-- What a token leads to: the next state, events, text to be read before the rest, and the name of
the encoding that the rest of the document is in. -/
structure Step where
  reader : Reader
  events : List Event := []
  inserted : List Char := []
  encoding : Option String := none

namespace Reader

variable (r : Reader)

def moveTo (place : Place) : Except Error Step :=
  .ok { reader := { r with place := place } }

def refuse (t : Token) : Except Error Step :=
  .error (.unexpected (String.ofList t.spelling))

def isOutside : Bool := r.openTags.isEmpty

def passed : Stage := if r.stage = .nothing then .something else r.stage

def markup (t : Token) : Except Error Step :=
  match t with
  | .openStart =>
    if r.isOutside && r.stage = .element then refuse t
    else .ok { reader := { r with place := .openName [], stage := .element } }
  | .closeStart => if r.isOutside then refuse t else r.moveTo (.closeName [])
  | .commentStart => .ok { reader := { r with place := .comment, stage := r.passed } }
  | .doctypeStart =>
    if r.stage = .doctype || r.stage = .element then refuse t
    else .ok { reader := { r with place := .doctype .outside, stage := .doctype } }
  | .instructionStart => r.moveTo (.instructionName [])
  | .cdataStart => if r.isOutside then refuse t else r.moveTo .cdata
  | _ => refuse t

/-- A token between tags.  Outside of the root element only blanks are text. -/
def content (t : Token) : Except Error Step :=
  match t with
  | .char c =>
    if isSpace c then .ok { reader := { r with place := .content, stage := r.passed } }
    else if r.isOutside then refuse t
    else if r.version.allowsPlain c then r.moveTo .content
    else .error .invalidCharacter
  | .commentEnd | .tagEnd | .equals | .quote _ | .instructionEnd | .emptyTagEnd | .referenceEnd =>
    if r.isOutside then refuse t else r.moveTo .content
  | .referenceStart => if r.isOutside then refuse t else r.moveTo (.reference [] .content)
  | _ => r.markup t

def extendsName (seen : List Char) (c : Char) : Bool :=
  if c = ':' then !seen.isEmpty && !seen.contains ':'
  else isNameStart c || (!seen.isEmpty && isNameChar c)

def finishName (seen : List Char) : Except Error QName :=
  match QName.ofChars? seen.reverse with
  | some name => .ok name
  | none => .error (.invalidName (String.ofList seen.reverse))

def elementName (seen : List Char) : Except Error QName := do
  let name ← finishName seen
  if name.isReserved then .error (.reservedName name.text) else .ok name

def uriOf (scopes : List Scope) (name : QName) : Except Error (Option String) :=
  match lookupUri scopes (name.qualifier.getD "") with
  | some uri => .ok (if uri = "" then none else some uri)
  | none => .error (.unboundName name.text)

def resolveAttribute (scopes : List Scope) (a : QName × String) : Except Error Attribute :=
  match a.1.qualifier with
  | none => .ok ⟨none, a.1.name, a.2⟩
  | some _ => do .ok ⟨← uriOf scopes a.1, a.1.name, a.2⟩

def opened (tag : Tag) (closed : Bool) : Except Error Step := do
  let scopes := tag.scope :: r.scopes
  let _ ← uriOf scopes tag.name
  let attributes ← tag.attributes.mapM (resolveAttribute scopes)
  let event := Event.opened tag.name.name attributes
  if closed then .ok { reader := { r with place := .content }, events := [event, .closed] }
  else
    .ok {
      reader := { r with place := .content, openTags := tag.name :: r.openTags, scopes := scopes }
      events := [event] }

def closed (name : QName) : Except Error Step :=
  match r.openTags with
  | top :: rest =>
    if top = name then
      .ok {
        reader := { r with place := .content, openTags := rest, scopes := r.scopes.tail }
        events := [.closed] }
    else .error (.mismatchedTag name.text)
  | [] => .error (.mismatchedTag name.text)

def openName (seen : List Char) (t : Token) : Except Error Step :=
  match t with
  | .tagEnd => do r.opened { name := ← elementName seen } false
  | .emptyTagEnd => do r.opened { name := ← elementName seen } true
  | .char c =>
    if extendsName seen c then r.moveTo (.openName (c :: seen))
    else if isSpace c then do r.moveTo (.inTag { name := ← elementName seen })
    else refuse t
  | _ => refuse t

def inTag (tag : Tag) (t : Token) : Except Error Step :=
  match t with
  | .tagEnd => r.opened tag false
  | .emptyTagEnd => r.opened tag true
  | .char c =>
    if isSpace c then r.moveTo (.inTag tag)
    else if isNameStart c then r.moveTo (.attributeName tag [c])
    else refuse t
  | _ => refuse t

def newAttribute (tag : Tag) (seen : List Char) : Except Error QName := do
  let name ← finishName seen
  if (tag.attributes.lookup name).isSome then .error (.repeatedAttribute name.text) else .ok name

def attributeName (tag : Tag) (seen : List Char) (t : Token) : Except Error Step :=
  match t with
  | .equals => do r.moveTo (.attributeValue tag (← newAttribute tag seen) none [])
  | .char c =>
    if extendsName seen c then r.moveTo (.attributeName tag (c :: seen))
    else if isSpace c then do r.moveTo (.afterAttributeName tag (← newAttribute tag seen))
    else refuse t
  | _ => refuse t

def Tag.add (tag : Tag) (name : QName) (value : String) : Except Error Tag :=
  if name.qualifier = some "xmlns" then
    if name.name = "xmlns" ∨ (name.name = "xml" ∧ value ≠ xmlUri) ∨ value = "" then
      .error (.reservedName name.text)
    else .ok { tag with scope := tag.scope.declare name.name value }
  else if name.qualifier = none ∧ name.name = "xmlns" then
    if value ∈ ["xmlns", "xml", xmlUri, xmlnsUri] then .error (.reservedName value)
    else .ok { tag with scope := tag.scope.declare "" value }
  else .ok { tag with attributes := tag.attributes ++ [(name, value)] }

inductive ValueStep where
  | inside (quote : Option Char) (seen : List Char)
  | reference
  | finished

/-- Inside quotes almost anything is text, also what looks like markup, except an opening tag. -/
def valueStep (quote : Option Char) (seen : List Char) (t : Token) : Except Error ValueStep :=
  match quote, t with
  | none, .quote q => .ok (.inside (some q) seen)
  | none, .char c =>
    if isSpace c then .ok (.inside none seen) else .error (.unexpected (String.ofList [c]))
  | none, t => .error (.unexpected (String.ofList t.spelling))
  | some q, .quote c => if c = q then .ok .finished else .ok (.inside quote (c :: seen))
  | some _, .referenceStart => .ok .reference
  | some _, .openStart | some _, .instructionStart =>
    .error (.unexpected (String.ofList t.spelling))
  | some _, .char c =>
    if r.version.allowsPlain c then .ok (.inside quote (c :: seen)) else .error .invalidCharacter
  | some _, t => .ok (.inside quote (t.spelling.reverse ++ seen))

def attributeValue (tag : Tag) (name : QName) (quote : Option Char) (seen : List Char)
    (t : Token) : Except Error Step := do
  match ← r.valueStep quote seen t with
  | .inside quote seen => r.moveTo (.attributeValue tag name quote seen)
  | .reference => r.moveTo (.reference [] (.attributeValue tag name quote seen))
  | .finished => r.moveTo (.afterAttributeValue (← Tag.add tag name (String.ofList seen.reverse)))

def afterAttributeValue (tag : Tag) (t : Token) : Except Error Step :=
  match t with
  | .tagEnd => r.opened tag false
  | .emptyTagEnd => r.opened tag true
  | .char c => if isSpace c then r.moveTo (.inTag tag) else refuse t
  | _ => refuse t

def closeName (seen : List Char) (t : Token) : Except Error Step :=
  match t with
  | .tagEnd => do r.closed (← elementName seen)
  | .char c =>
    if extendsName seen c then r.moveTo (.closeName (c :: seen))
    else if isSpace c then do r.moveTo (.afterCloseName (← elementName seen))
    else refuse t
  | _ => refuse t

def numericReference (cs : List Char) : Except Error Char :=
  let number :=
    match cs with
    | 'x' :: digits => Number.readUnsigned 16 Number.maxUInt32 digits
    | digits => Number.readUnsigned 10 Number.maxUInt32 digits
  match number.toOption.bind Text.charOfNat? with
  | some c => if r.version.allows c then .ok c else .error (.invalidReference (String.ofList cs))
  | none => .error (.invalidReference (String.ofList cs))

def namedCharacter? : String → Option Char
  | "lt" => some '<'
  | "gt" => some '>'
  | "amp" => some '&'
  | "apos" => some '\''
  | "quot" => some '"'
  | _ => none

def Place.push (text : List Char) : Place → Place
  | .attributeValue tag name quote seen => .attributeValue tag name quote (text.reverse ++ seen)
  | .pseudoValue pseudo quote seen => .pseudoValue pseudo quote (text.reverse ++ seen)
  | place => place

/-- A reference is complete: it stands for a character, or for the text of an entity.  Between tags
the text of an entity may hold markup and is read like the text of the document. -/
def referenceEnd (seen : List Char) (back : Place) : Except Error Step :=
  let name := String.ofList seen.reverse
  match seen.reverse, namedCharacter? name with
  | [], _ => .error (.unknownEntity "")
  | '#' :: digits, _ => do r.moveTo (Place.push [← r.numericReference digits] back)
  | _, some c => r.moveTo (Place.push [c] back)
  | _, none =>
    match r.entities.lookup name, back with
    | some text, .content => .ok { reader := { r with place := .content }, inserted := text }
    | some text, back => r.moveTo (Place.push text back)
    | none, _ => .error (.unknownEntity name)

def reference (seen : List Char) (back : Place) (t : Token) : Except Error Step :=
  match t with
  | .referenceEnd => r.referenceEnd seen back
  | .char c =>
    if (seen.isEmpty && (isNameStart c || c = '#')) || (!seen.isEmpty && isNameChar c) then
      r.moveTo (.reference (c :: seen) back)
    else refuse t
  | _ => refuse t

/-- The name of a processing instruction is complete.  One called `xml` opens the document, and one
with a body may be without a name. -/
def instructionNamed (name : String) (ended : Bool) : Except Error Step :=
  if name = "xml" ∧ !ended ∧ r.stage = .nothing then r.moveTo (.beforePseudo [.version] false)
  else if name.toLower = "xml" ∨ (name = "" ∧ ended) then .error (.reservedName name)
  else if ended then
    .ok { reader := { r with place := .content, stage := r.passed }, events := [.other] }
  else .ok { reader := { r with place := .instructionBody, stage := r.passed } }

def instructionName (seen : List Char) (t : Token) : Except Error Step :=
  match t with
  | .instructionEnd => r.instructionNamed (String.ofList seen.reverse) true
  | .char c =>
    if (seen.isEmpty && isNameStart c) || (!seen.isEmpty && isNameChar c) then
      r.moveTo (.instructionName (c :: seen))
    else if isSpace c then r.instructionNamed (String.ofList seen.reverse) false
    else refuse t
  | _ => refuse t

def instructionBody (t : Token) : Except Error Step :=
  match t with
  | .instructionEnd => .ok { reader := { r with place := .content }, events := [.other] }
  | .char c =>
    if r.version.allows c then r.moveTo .instructionBody else .error .invalidCharacter
  | _ => r.moveTo .instructionBody

def declared : Except Error Step :=
  .ok {
    reader := { r with place := .content, stage := .something }
    events := [.other]
    encoding := r.encoding }

def beforePseudo (allowed : List Pseudo) (mayEnd : Bool) (t : Token) : Except Error Step :=
  match t with
  | .instructionEnd => if mayEnd then r.declared else refuse t
  | .char c =>
    if isSpace c then r.moveTo (.beforePseudo allowed mayEnd)
    else
      match allowed.find? fun p => p.initial = c with
      | some p => r.moveTo (.pseudoName p [])
      | none => refuse t
  | _ => refuse t

def afterPseudo (allowed : List Pseudo) (t : Token) : Except Error Step :=
  match t with
  | .instructionEnd => r.declared
  | .char c => if isSpace c then r.moveTo (.beforePseudo allowed true) else refuse t
  | _ => refuse t

/-- Behind its first letter the name of a part is read like any name, and a qualifier there is
passed over. -/
def finishPseudo (pseudo : Pseudo) (seen : List Char) : Except Error Unit := do
  let name ← finishName seen
  if name.name = pseudo.rest then .ok () else .error (.invalidDeclaration name.text)

def pseudoName (pseudo : Pseudo) (seen : List Char) (t : Token) : Except Error Step :=
  match t with
  | .equals => do
    finishPseudo pseudo seen
    r.moveTo (.pseudoValue pseudo none [])
  | .char c =>
    if extendsName seen c then r.moveTo (.pseudoName pseudo (c :: seen))
    else if isSpace c then do
      finishPseudo pseudo seen
      r.moveTo (.afterPseudoName pseudo)
    else refuse t
  | _ => refuse t

def pseudoDeclared (pseudo : Pseudo) (value : String) : Except Error Step :=
  match pseudo with
  | .version =>
    let next := Place.afterPseudo [.encoding, .standalone]
    if value = "1.0" then .ok { reader := { r with place := next } }
    else if value = "1.1" then .ok { reader := { r with place := next, version := .v11 } }
    else .error (.invalidDeclaration value)
  | .encoding =>
    .ok { reader := { r with place := .afterPseudo [.standalone], encoding := some value } }
  | .standalone =>
    if value = "yes" ∨ value = "no" then r.moveTo (.beforePseudo [] true)
    else .error (.invalidDeclaration value)

def pseudoValue (pseudo : Pseudo) (quote : Option Char) (seen : List Char) (t : Token) :
    Except Error Step := do
  match ← r.valueStep quote seen t with
  | .inside quote seen => r.moveTo (.pseudoValue pseudo quote seen)
  | .reference => r.moveTo (.reference [] (.pseudoValue pseudo quote seen))
  | .finished => r.pseudoDeclared pseudo (String.ofList seen.reverse)

def moveIn (part : Doctype) : Except Error Step :=
  r.moveTo (.doctype part)

def addEntity (name : String) (value : List Char) (part : Doctype) : Except Error Step :=
  let entities :=
    if (r.entities.lookup name).isSome then r.entities else r.entities ++ [(name, value)]
  .ok { reader := { r with place := .doctype part, entities := entities } }

def doctype (part : Doctype) (t : Token) : Except Error Step :=
  match part, t with
  | .outside, .tagEnd => r.moveTo .content
  | .outside, .markupStart => r.moveIn (.keyword [])
  | .outside, .char c => r.moveIn (if c = '%' then .parameter [] else .outside)
  | .outside, .commentStart => r.moveIn .comment
  | .outside, .quote q => r.moveIn (.literal q)
  | .outside, .cdataStart | .outside, .cdataEnd => refuse t
  | .outside, _ => r.moveIn .outside
  | .literal q, .quote c => r.moveIn (if c = q then .outside else .literal q)
  | .literal q, _ => r.moveIn (.literal q)
  | .comment, .commentEnd => r.moveIn .outside
  | .comment, _ => r.moveIn .comment
  | .keyword seen, .char c =>
    if c.isUpper then r.moveIn (.keyword (c :: seen))
    else if isSpace c then
      let word := String.ofList seen.reverse
      if word = "ENTITY" then r.moveIn .beforeName
      else if word ∈ ["NOTATION", "ELEMENT", "ATTLIST"] then r.moveIn .skipped
      else .error (.unexpected word)
    else refuse t
  | .keyword _, _ => refuse t
  | .skipped, .tagEnd => r.moveIn .outside
  | .skipped, .markupStart => refuse t
  | .skipped, _ => r.moveIn .skipped
  | .beforeName, .char c =>
    if isSpace c then r.moveIn .beforeName
    else if c = '%' then r.moveIn .parameterStart
    else if isNameStart c then r.moveIn (.name [c])
    else refuse t
  | .beforeName, _ => refuse t
  | .parameterStart, .char c =>
    if isSpace c then r.moveIn .parameterStart
    else if isNameStart c then r.moveIn (.name [c, '%'])
    else refuse t
  | .parameterStart, _ => refuse t
  | .name seen, .char c =>
    if isNameChar c then r.moveIn (.name (c :: seen))
    else if isSpace c then r.moveIn (.beforeValue (String.ofList seen.reverse))
    else refuse t
  | .name _, _ => refuse t
  | .beforeValue name, .char c =>
    if isSpace c then r.moveIn (.beforeValue name)
    else if c = 'S' ∨ c = 'P' then r.addEntity name [] .skipped
    else refuse t
  | .beforeValue name, .quote q => r.moveIn (.value name q [])
  | .beforeValue _, _ => refuse t
  | .value name q seen, .quote c =>
    if c = q then r.addEntity name seen.reverse .skipped else r.moveIn (.value name q (c :: seen))
  | .value name q seen, .referenceStart => r.moveIn (.reference name q seen)
  | .value name q seen, .char c =>
    if c = '&' then r.moveIn (.reference name q seen)
    else if c = '%' then r.moveIn (.parameterInValue name q seen [])
    else if r.version.allows c then r.moveIn (.value name q (c :: seen))
    else .error .invalidCharacter
  | .value _ _ _, _ => refuse t
  | .reference name q seen, .char c =>
    if c = '#' then r.moveIn (.number name q seen [])
    else if r.version.allows c then r.moveIn (.value name q (c :: '&' :: seen))
    else .error .invalidCharacter
  | .reference _ _ _, _ => refuse t
  | .number name q seen digits, .char c =>
    if c = ';' then do
      r.moveIn (.value name q ((← r.numericReference digits.reverse) :: seen))
    else if r.version.allows c then r.moveIn (.number name q seen (c :: digits))
    else .error .invalidCharacter
  | .number _ _ _ _, _ => refuse t
  | .parameterInValue name q seen entity, .char c =>
    if isNameChar c then r.moveIn (.parameterInValue name q seen (c :: entity))
    else if c = ';' then
      match r.entities.lookup (String.ofList ('%' :: entity.reverse)) with
      | some text => r.moveIn (.value name q (text.reverse ++ seen))
      | none => .error (.unknownEntity (String.ofList entity.reverse))
    else refuse t
  | .parameterInValue _ _ _ _, _ => refuse t
  | .parameter entity, .char c =>
    if isNameChar c then r.moveIn (.parameter (c :: entity)) else refuse t
  | .parameter entity, .referenceEnd =>
    match r.entities.lookup (String.ofList ('%' :: entity.reverse)) with
    | some text => .ok { reader := { r with place := .doctype .outside }, inserted := text }
    | none => .error (.unknownEntity (String.ofList entity.reverse))
  | .parameter _, _ => refuse t

def step (t : Token) : Except Error Step :=
  match r.place with
  | .start | .content => r.content t
  | .comment =>
    match t with
    | .commentEnd => r.moveTo .content
    | .char c => if r.version.allows c then r.moveTo .comment else .error .invalidCharacter
    | _ => r.moveTo .comment
  | .cdata =>
    match t with
    | .cdataEnd => r.moveTo .content
    | .char c => if r.version.allows c then r.moveTo .cdata else .error .invalidCharacter
    | _ => r.moveTo .cdata
  | .openName seen => r.openName seen t
  | .inTag tag => r.inTag tag t
  | .attributeName tag seen => r.attributeName tag seen t
  | .afterAttributeName tag name =>
    match t with
    | .equals => r.moveTo (.attributeValue tag name none [])
    | .char c => if isSpace c then r.moveTo (.afterAttributeName tag name) else refuse t
    | _ => refuse t
  | .attributeValue tag name quote seen => r.attributeValue tag name quote seen t
  | .afterAttributeValue tag => r.afterAttributeValue tag t
  | .closeName seen => r.closeName seen t
  | .afterCloseName name =>
    match t with
    | .tagEnd => r.closed name
    | .char c => if isSpace c then r.moveTo (.afterCloseName name) else refuse t
    | _ => refuse t
  | .instructionName seen => r.instructionName seen t
  | .instructionBody => r.instructionBody t
  | .beforePseudo allowed mayEnd => r.beforePseudo allowed mayEnd t
  | .afterPseudo allowed => r.afterPseudo allowed t
  | .pseudoName pseudo seen => r.pseudoName pseudo seen t
  | .afterPseudoName pseudo =>
    match t with
    | .equals => r.moveTo (.pseudoValue pseudo none [])
    | .char c => if isSpace c then r.moveTo (.afterPseudoName pseudo) else refuse t
    | _ => refuse t
  | .pseudoValue pseudo quote seen => r.pseudoValue pseudo quote seen t
  | .doctype part => r.doctype part t
  | .reference seen back => r.reference seen back t

end Reader

end ApkAudit.Xml
