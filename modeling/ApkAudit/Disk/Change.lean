import ApkAudit.Disk.Basic

/-!
What sets two states of a disk apart, as steps that lead from one to the other.
-/

namespace ApkAudit

inductive Change where
  | removeFile (place : List String)
  | removeFolder (place : List String)
  | makeFolder (place : List String)
  | write (place : List String) (content : ByteArray)

namespace Change

def removal (place : List String) : Node → Change
  | .file _ | .locked _ => .removeFile place
  | .folder _ _ => .removeFolder place

def removals (place : List String) (before after : List (String × Node)) : List Change :=
  (before.filter fun (name, _) => (after.lookup name).isNone).map fun (name, node) =>
    removal (place ++ [name]) node

mutual

/-- The steps that put a node where another one stands, or none.  A file that may not be opened
stays where it is. -/
def toward (place : List String) (before : Option Node) : Node → List Change
  | .file content =>
    match before with
    | some (.file old) => if old == content then [] else [.write place content]
    | some (.locked _) => [.removeFile place, .write place content]
    | some (.folder _ _) => [.removeFolder place, .write place content]
    | none => [.write place content]
  | .locked _ => []
  | .folder _ entries =>
    match before with
    | some (.folder _ old) => removals place old entries ++ towardAll place old entries
    | some (.file _) | some (.locked _) =>
      .removeFile place :: .makeFolder place :: towardAll place [] entries
    | none => .makeFolder place :: towardAll place [] entries

def towardAll (place : List String) (before : List (String × Node)) :
    List (String × Node) → List Change
  | [] => []
  | (name, node) :: rest =>
    toward (place ++ [name]) (before.lookup name) node ++ towardAll place before rest

end

end Change

def Disk.changes (before after : Disk) : List Change :=
  Change.toward [] (some before.root) after.root

end ApkAudit
