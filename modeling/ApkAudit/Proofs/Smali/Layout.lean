import ApkAudit.Proofs.Code.Reference
import ApkAudit.Proofs.Smali.Literal
import ApkAudit.Proofs.Text.Scan
import ApkAudit.Smali.Source

/-! Classes of disassembled code: what they declare, call and load, the operations on the index
that this amounts to, and all the ways to write it down line by line. -/

namespace ApkAudit.Smali

open Text

structure Signature where
  name : List Char
  parameters : List Char
  result : List Char
  name_ne_nil : name ≠ []
  name_solid : IsSolid name
  paren_not_mem_name : '(' ∉ name
  parameters_solid : IsSolid parameters
  paren_not_mem_parameters : ')' ∉ parameters
  result_ne_nil : result ≠ []
  result_solid : IsSolid result

namespace Signature

def descriptor (s : Signature) : List Char :=
  '(' :: s.parameters ++ ')' :: s.result

def text (s : Signature) : List Char :=
  s.name ++ s.descriptor

def method (s : Signature) (className : String) : Method :=
  ⟨className, String.ofList s.name, String.ofList s.descriptor⟩

end Signature

inductive Primitive where
  | boolean
  | byte
  | short
  | char
  | int
  | long
  | float
  | double

def Primitive.letter : Primitive → Char
  | boolean => 'Z'
  | byte => 'B'
  | short => 'S'
  | char => 'C'
  | int => 'I'
  | long => 'J'
  | float => 'F'
  | double => 'D'

inductive Target where
  | object (path : List Char) (dimensions : Nat) (ne_nil : path ≠ []) (stop : ';' ∉ path)
      (feed : '\n' ∉ path)
  | primitives (element : Primitive) (furtherDimensions : Nat)

namespace Target

def descriptor : Target → List Char
  | object path dimensions _ _ _ => List.replicate dimensions '[' ++ 'L' :: path ++ [';']
  | primitives element further => List.replicate (further + 1) '[' ++ [element.letter]

def className : Target → List Char
  | object path dimensions _ _ _ => dots path ++ (List.replicate dimensions ['[', ']']).flatten
  | primitives element further =>
    element.letter :: (List.replicate (further + 1) ['[', ']']).flatten

end Target

def IsAccess (words : List (List Char)) : Prop :=
  ∀ word ∈ words, ∀ c ∈ word, isAsciiWord c = true ∨ c = '-'

def IsKind (kind : List Char) : Prop :=
  kind ≠ [] ∧ ∀ c ∈ kind, isAsciiWord c = true ∨ c = '-' ∨ c = '/'

def IsRegister (register : List Char) : Prop :=
  register ≠ [] ∧ ∀ c ∈ register, isAsciiWord c = true

def keywords : List (List Char) :=
  [".class".toList, ".method".toList, ".end method".toList, "invoke-".toList,
    "const-string".toList]

/-- A line of no meaning: behind its indentation, it begins with no keyword. -/
def IsOther (line : List Char) : Prop :=
  '\n' ∉ line ∧ ∀ keyword ∈ keywords, ¬ keyword <+: trimChars line

instance (words : List (List Char)) : Decidable (IsAccess words) :=
  @List.decidableBAll _ _ (fun _ => List.decidableBAll (fun c => isAsciiWord c = true ∨ c = '-') _)
    words

instance (kind : List Char) : Decidable (IsKind kind) :=
  @instDecidableAnd _ _ inferInstance
    (List.decidableBAll (fun c => isAsciiWord c = true ∨ c = '-' ∨ c = '/') kind)

instance (register : List Char) : Decidable (IsRegister register) :=
  @instDecidableAnd _ _ inferInstance (List.decidableBAll (isAsciiWord · = true) register)

instance (line : List Char) : Decidable (IsOther line) :=
  @instDecidableAnd _ _ inferInstance
    (List.decidableBAll (¬ · <+: trimChars line) keywords)

inductive Instruction where
  | call (kind registers : List Char) (target : Target) (signature : Signature)
      (kind_ok : IsKind kind) (brace : '\x7d' ∉ registers) (feed : '\n' ∉ registers)
  | loadString (jumbo : Bool) (register value : List Char) (register_ok : IsRegister register)
  | other (line : List Char) (line_ok : IsOther line)

def Instruction.operation? (m : Method) : Instruction → Option CodeIndex.Operation
  | call _ _ target signature _ _ _ =>
    some (.call m (signature.method (String.ofList target.className)))
  | loadString _ register value _ => some (.read (String.ofList value) m (String.ofList register))
  | other _ _ => none

structure MethodSource where
  access : List (List Char)
  signature : Signature
  body : List Instruction
  access_ok : IsAccess access

def MethodSource.operations (m : MethodSource) (className : String) : List CodeIndex.Operation :=
  .declare (m.signature.method className) ::
    m.body.filterMap (Instruction.operation? (m.signature.method className))

inductive Member where
  | method (m : MethodSource)
  | other (line : List Char) (line_ok : IsOther line)

def Member.operations (className : String) : Member → List CodeIndex.Operation
  | method m => m.operations className
  | other _ _ => []

structure ClassSource where
  access : List (List Char)
  path : List Char
  members : List Member
  access_ok : IsAccess access
  path_ne_nil : path ≠ []
  path_solid : IsSolid path
  stop_not_mem_path : ';' ∉ path

def ClassSource.descriptor (c : ClassSource) : List Char :=
  'L' :: c.path ++ [';']

def ClassSource.name (c : ClassSource) : String :=
  String.ofList (dots c.path)

def ClassSource.operations (c : ClassSource) : List CodeIndex.Operation :=
  c.members.flatMap (Member.operations c.name)

inductive Item where
  | classHeader (c : ClassSource)
  | methodHeader (m : MethodSource)
  | endMethod
  | instruction (i : Instruction)

def MethodSource.items (m : MethodSource) : List Item :=
  .methodHeader m :: m.body.map .instruction ++ [.endMethod]

def Member.items : Member → List Item
  | method m => m.items
  | other line line_ok => [.instruction (.other line line_ok)]

def ClassSource.items (c : ClassSource) : List Item :=
  .classHeader c :: c.members.flatMap Member.items

inductive Headed (declared : List Char) : List (List Char) → List Char → Prop
  | declared {gap : List Char} : gap ≠ [] → IsIndent gap → Headed declared [] (gap ++ declared)
  | access {gap word text : List Char} {words : List (List Char)} :
      gap ≠ [] → IsIndent gap → Headed declared words text →
      Headed declared (word :: words) (gap ++ (word ++ text))

def loadForm (jumbo : Bool) : List Char :=
  if jumbo then "/jumbo".toList else []

inductive Item.Written : Item → List Char → Prop
  | classHeader {c : ClassSource} {text : List Char} :
      Headed c.descriptor c.access text →
      Written (.classHeader c) (".class".toList ++ text)
  | methodHeader {m : MethodSource} {text : List Char} :
      Headed m.signature.text m.access text →
      Written (.methodHeader m) (".method".toList ++ text)
  | endMethod : Written .endMethod ".end method".toList
  | call {kind registers : List Char} {target : Target} {signature : Signature}
      (kind_ok : IsKind kind) (brace : '\x7d' ∉ registers) (feed : '\n' ∉ registers)
      {gap blanks : List Char} :
      gap ≠ [] → IsIndent gap → IsIndent blanks →
      Written (.instruction (.call kind registers target signature kind_ok brace feed))
        ("invoke-".toList ++ (kind ++ (gap ++ '\x7b' :: (registers ++ '\x7d' :: ',' ::
          (blanks ++ (target.descriptor ++ ("->".toList ++ signature.text)))))))
  | loadString {register value literal : List Char} (register_ok : IsRegister register)
      {jumbo : Bool} {gap blanks : List Char} :
      gap ≠ [] → IsIndent gap → IsIndent blanks → Spelled value literal →
      Written (.instruction (.loadString jumbo register value register_ok))
        ("const-string".toList ++ (loadForm jumbo ++ (gap ++ (register ++
          ',' :: (blanks ++ '"' :: (literal ++ ['"']))))))
  | other {line : List Char} (line_ok : IsOther line) :
      Written (.instruction (.other line line_ok)) line

inductive IsIdle : List Char → Prop
  | blank {line : List Char} : IsIndent line → IsIdle line
  | comment {indent text : List Char} :
      IsIndent indent → '\n' ∉ text → IsIdle (indent ++ '#' :: text)

inductive LaidOut : List Item → List Char → Prop
  | nil : LaidOut [] []
  | idle {line ending text : List Char} {items : List Item} :
      IsIdle line → LineEnd ending text → LaidOut items text →
      LaidOut items (line ++ (ending ++ text))
  | item {item : Item} {indent line ending text : List Char} {items : List Item} :
      IsIndent indent → item.Written line → LineEnd ending text → LaidOut items text →
      LaidOut (item :: items) (indent ++ line ++ (ending ++ text))

def ClassSource.WrittenAs (c : ClassSource) (source : String) : Prop :=
  LaidOut c.items source.toList

end ApkAudit.Smali
