import ApkAudit.Text.Lines

/-!
Paths as text: their components, the name, stem and extension of what they point to, and joining.
-/

namespace ApkAudit.Path

inductive Component where
  | root
  | here
  | parent
  | name (text : String)
deriving DecidableEq, Repr

def Component.ofPiece (piece : String) : Component :=
  if piece = "." then .here else if piece = ".." then .parent else .name piece

def isAbsolute (path : String) : Bool :=
  path.toList.head? = some '/'

def pieces (path : String) : List String :=
  (Text.split '/' path).filter (· ≠ "")

/-- The components of a path.  A dot counts only at the very start of a relative path. -/
def components (path : String) : List Component :=
  let parts := (pieces path).map Component.ofPiece
  if isAbsolute path then .root :: parts.filter (· ≠ .here)
  else
    match parts with
    | .here :: rest => .here :: rest.filter (· ≠ .here)
    | _ => parts.filter (· ≠ .here)

def fileName? (path : String) : Option String :=
  match (components path).getLast? with
  | some (.name text) => some text
  | _ => none

/-- A name around its last dot.  A name whose only dot is in front has no extension. -/
def splitExtension (name : String) : String × Option String :=
  let reversed := name.toList.reverse
  let after := (reversed.takeWhile (· ≠ '.')).reverse
  match reversed.dropWhile (· ≠ '.') with
  | [] => (name, none)
  | [_] => (name, none)
  | _ :: before => (String.ofList before.reverse, some (String.ofList after))

def stem? (path : String) : Option String :=
  (fileName? path).map fun name => (splitExtension name).1

def extension? (name : String) : Option String :=
  (splitExtension name).2

/-- A path inside a folder; an absolute one stands for itself. -/
def join (base path : String) : String :=
  if isAbsolute path then path
  else if base.toList = [] then path
  else if base.toList.getLast? = some '/' then base ++ path
  else base ++ "/" ++ path

/-- Paths are ordered name by name, and a folder stands before what is in it. -/
def namesBefore : List String → List String → Bool
  | _, [] => false
  | [], _ :: _ => true
  | a :: as, b :: bs => a < b || (a == b && namesBefore as bs)

end ApkAudit.Path
