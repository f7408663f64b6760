import ApkAudit.Number.Numeral
import ApkAudit.Text.CodePoint

/-!
String literals of disassembled code: what their escapes stand for.
-/

namespace ApkAudit.Smali

/-- What the four places after `\u` stand for; fewer digits will do, and so will a plus sign. -/
def unicodeEscape (code : List Char) : List Char :=
  match Number.readUnsigned 16 Number.maxUInt32 code with
  | .ok n =>
    match Text.charOfNat? n with
    | some c => [c]
    | none => '\\' :: 'u' :: code
  | .error _ => '\\' :: 'u' :: code

/-- The text of a literal.  An escape of no meaning stands for its character. -/
def unescape : List Char → List Char
  | [] => []
  | ['\\'] => ['\\']
  | '\\' :: 'n' :: rest => '\n' :: unescape rest
  | '\\' :: 't' :: rest => '\t' :: unescape rest
  | '\\' :: 'r' :: rest => '\r' :: unescape rest
  | '\\' :: 'u' :: rest => unicodeEscape (rest.take 4) ++ unescape (rest.drop 4)
  | '\\' :: c :: rest => c :: unescape rest
  | c :: rest => c :: unescape rest
termination_by cs => cs.length
decreasing_by all_goals simp <;> omega

end ApkAudit.Smali
