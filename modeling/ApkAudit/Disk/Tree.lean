/-!
Trees of files and folders, and what is found or put at a list of names.
-/

namespace ApkAudit

/-- A file with its content, a file of some size that may not be opened, or a folder with its
entries in the order they are listed.  Only a writable folder lets entries in or out. -/
inductive Node where
  | file (content : ByteArray)
  | locked (size : Nat)
  | folder (writable : Bool) (entries : List (String × Node))
deriving Inhabited

namespace Node

def isFile : Node → Bool
  | file _ | locked _ => true
  | folder _ _ => false

def isFolder : Node → Bool
  | file _ | locked _ => false
  | folder _ _ => true

def empty : Node := folder true []

def entry? (name : String) : Node → Option Node
  | file _ | locked _ => none
  | folder _ entries => entries.lookup name

def find? : List String → Node → Option Node
  | [], node => some node
  | name :: names, node =>
    match node.entry? name with
    | some next => find? names next
    | none => none

def setEntry (name : String) (value : Option Node) :
    List (String × Node) → List (String × Node)
  | [] =>
    match value with
    | some node => [(name, node)]
    | none => []
  | (n, node) :: rest =>
    if n = name then
      match value with
      | some new => (name, new) :: rest
      | none => rest
    else (n, node) :: setEntry name value rest

/-- Replaces what stands at a list of names, or leaves it out; the folders around it must exist. -/
def set (value : Option Node) : List String → Node → Node
  | [], node => value.getD node
  | _ :: _, file content => file content
  | _ :: _, locked size => locked size
  | [name], folder writable entries => folder writable (setEntry name value entries)
  | name :: next :: names, folder writable entries =>
    match entries.lookup name with
    | some node => folder writable (setEntry name (some (set value (next :: names) node)) entries)
    | none => folder writable entries

mutual

def files : Node → List (List String × Option ByteArray)
  | file content => [([], some content)]
  | locked _ => [([], none)]
  | folder _ entries => filesIn entries

def filesIn : List (String × Node) → List (List String × Option ByteArray)
  | [] => []
  | (name, node) :: rest => node.files.map (fun (p, c) => (name :: p, c)) ++ filesIn rest

end

mutual

/-- A node whose content has been taken out entry by entry, up to the first that a folder does not
let go, and whether all of it is gone. -/
def emptied : Node → Node × Bool
  | file content => (file content, true)
  | locked size => (locked size, true)
  | folder writable entries =>
    let (left, done) := emptiedIn writable entries
    (folder writable left, done)

def emptiedIn (writable : Bool) : List (String × Node) → List (String × Node) × Bool
  | [] => ([], true)
  | (name, node) :: rest =>
    let (left, done) := node.emptied
    if done && writable then emptiedIn writable rest else ((name, left) :: rest, false)

end

end Node

end ApkAudit
