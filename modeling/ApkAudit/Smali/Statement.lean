import ApkAudit.Text.Blank
import ApkAudit.Text.Lines
import ApkAudit.Text.Word

/-!
The lines of disassembled code that matter for the index: headers of classes and methods, ends of
methods, calls, and loads of string constants.
-/

namespace ApkAudit.Smali

/-- A line with a meaning for the index; descriptors and literals are as written. -/
inductive Statement where
  | classHeader (descriptor : List Char)
  | methodHeader (name descriptor : List Char)
  | endMethod
  | call (classDescriptor name descriptor : List Char)
  | loadString (register literal : List Char)
deriving DecidableEq, Repr

def isModifierChar (c : Char) : Bool :=
  Text.isWord c || c = '-'

def afterBlanks? : List Char → Option (List Char)
  | [] => none
  | c :: rest => if Text.isBlank c then some (Text.trimStartChars rest) else none

/-- The text behind all words that are followed by a blank. -/
def dropModifiers (fuel : Nat) (cs : List Char) : List Char :=
  match fuel with
  | 0 => cs
  | fuel + 1 =>
    if (cs.takeWhile isModifierChar).isEmpty then cs
    else
      match afterBlanks? (cs.dropWhile isModifierChar) with
      | some rest => dropModifiers fuel rest
      | none => cs

def afterHeader? (keyword : String) (line : List Char) : Option (List Char) := do
  let rest ← afterBlanks? (← Text.dropStart? keyword.toList line)
  some (dropModifiers rest.length rest)

def classDescriptor? (stop : Char → Bool) : List Char → Option (List Char × List Char)
  | 'L' :: rest =>
    let body := rest.takeWhile fun c => c ≠ ';' && !stop c
    match rest.dropWhile fun c => c ≠ ';' && !stop c with
    | ';' :: after => if body.isEmpty then none else some ('L' :: body ++ [';'], after)
    | _ => none
  | _ => none

def signature? (cs : List Char) : Option (List Char × List Char) :=
  let isName (c : Char) : Bool := !Text.isBlank c && c ≠ '('
  let name := cs.takeWhile isName
  match cs.dropWhile isName with
  | '(' :: rest =>
    let parameters := rest.takeWhile (· ≠ ')')
    match rest.dropWhile (· ≠ ')') with
    | ')' :: after =>
      let result := after.takeWhile fun c => !Text.isBlank c
      if name.isEmpty || result.isEmpty then none
      else some (name, '(' :: parameters ++ ')' :: result)
    | _ => none
  | _ => none

def classHeader? (line : List Char) : Option Statement := do
  let rest ← afterHeader? ".class" line
  let (descriptor, _) ← classDescriptor? Text.isBlank rest
  some (.classHeader descriptor)

def methodHeader? (line : List Char) : Option Statement := do
  let rest ← afterHeader? ".method" line
  let (name, descriptor) ← signature? rest
  some (.methodHeader name descriptor)

def endMethod? (line : List Char) : Option Statement := do
  let _ ← Text.dropStart? ".end method".toList line
  some .endMethod

def callOf? (descriptor rest : List Char) : Option Statement := do
  let rest ← Text.dropStart? "->".toList rest
  let (name, signature) ← signature? rest
  some (.call descriptor name signature)

def callOnClass? (cs : List Char) : Option Statement := do
  let (descriptor, rest) ← classDescriptor? (fun _ => false) (cs.dropWhile (· = '['))
  callOf? (cs.takeWhile (· = '[') ++ descriptor) rest

def callOnPrimitive? (cs : List Char) : Option Statement :=
  match cs.takeWhile (· = '['), cs.dropWhile (· = '[') with
  | [], _ => none
  | brackets, c :: rest => if c.isUpper then callOf? (brackets ++ [c]) rest else none
  | _, [] => none

def call? (line : List Char) : Option Statement := do
  let rest ← Text.dropStart? "invoke-".toList line
  let isKind (c : Char) : Bool := Text.isWord c || c = '/' || c = '-'
  if (rest.takeWhile isKind).isEmpty then none
  let rest ← afterBlanks? (rest.dropWhile isKind)
  let rest ← Text.dropStart? ['\x7b'] rest
  let rest ← Text.dropStart? ['\x7d', ','] (rest.dropWhile (· ≠ '\x7d'))
  let target := Text.trimStartChars rest
  callOnClass? target <|> callOnPrimitive? target

/-- The characters up to the closing quote, where a backslash covers the character behind it. -/
def literal? : List Char → Option (List Char)
  | [] => none
  | '"' :: _ => some []
  | ['\\'] => none
  | '\\' :: c :: rest => (literal? rest).map fun body => '\\' :: c :: body
  | c :: rest => (literal? rest).map (c :: ·)

def loadString? (line : List Char) : Option Statement := do
  let rest ← Text.dropStart? "const-string".toList line
  let rest := (Text.dropStart? "/jumbo".toList rest).getD rest
  let rest ← afterBlanks? rest
  let register := rest.takeWhile Text.isWord
  if register.isEmpty then none
  let rest ← Text.dropStart? [','] (rest.dropWhile Text.isWord)
  let rest ← Text.dropStart? ['"'] (Text.trimStartChars rest)
  let literal ← literal? rest
  some (.loadString register literal)

def Statement.read? (line : List Char) : Option Statement :=
  classHeader? line <|> methodHeader? line <|> endMethod? line <|> call? line <|> loadString? line

end ApkAudit.Smali
