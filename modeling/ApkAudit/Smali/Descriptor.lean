/-!
Type descriptors and string literals of disassembled code.
-/

namespace ApkAudit.Smali

def dots (cs : List Char) : List Char :=
  cs.map fun c => if c = '/' then '.' else c

def classNameChars (descriptor : List Char) : List Char :=
  let dimensions := (descriptor.takeWhile (· = '[')).length
  let element := descriptor.dropWhile (· = '[')
  let name :=
    if element.head? = some 'L' ∧ element.getLast? = some ';' then dots element.tail.dropLast
    else element
  name ++ (List.replicate dimensions ['[', ']']).flatten

def className (descriptor : String) : String :=
  String.ofList (classNameChars descriptor.toList)

end ApkAudit.Smali
