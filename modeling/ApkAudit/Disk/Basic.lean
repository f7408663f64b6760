import ApkAudit.Disk.Path
import ApkAudit.Disk.Tree
import ApkAudit.Failure
import ApkAudit.Text.Utf8

/-!
The disk: a tree with a working folder somewhere in it.  Paths are resolved step by step, from the
top or from the working folder, and operations act on what they lead to.
-/

namespace ApkAudit

inductive DiskError where
  | notFound
  | denied
  | busy
  | alreadyExists
  | notFolder
  | isFolder
  | invalid
  | full
  | notEmpty
  | notText
deriving DecidableEq, Repr

def DiskError.message : DiskError → String
  | notFound => "No such file or directory (os error 2)"
  | denied => "Permission denied (os error 13)"
  | busy => "Device or resource busy (os error 16)"
  | alreadyExists => "File exists (os error 17)"
  | notFolder => "Not a directory (os error 20)"
  | isFolder => "Is a directory (os error 21)"
  | invalid => "Invalid argument (os error 22)"
  | full => "No space left on device (os error 28)"
  | notEmpty => "Directory not empty (os error 39)"
  | notText => "stream did not contain valid UTF-8"

def DiskError.failure (e : DiskError) : Failure :=
  Failure.ofText e.message

structure Disk where
  root : Node := .folder true [("work", .empty)]
  /-- The names that lead to the working folder, unless it has been removed. -/
  working : Option (List String) := some ["work"]
  /-- How many bytes a file can take until the device is full. -/
  space : Option Nat := none

namespace Disk

/-! Paths -/

def steps (path : String) : List String :=
  (Path.pieces path).filter (· ≠ ".")

/-- A path that ends in a slash or a dot can only lead to a folder. -/
def needsFolder (path : String) : Bool :=
  match (Text.split '/' path).getLast? with
  | some last => last = "" || last = "."
  | none => false

def start (disk : Disk) (path : String) : Option (List String) :=
  if Path.isAbsolute path then some [] else disk.working

/-- Follows steps from a place in the tree.  Above its top there is the top again. -/
def walk (root : Node) (place : List String) : List String → Except DiskError (List String)
  | [] => .ok place
  | step :: rest =>
    match root.find? place with
    | some (.folder _ entries) =>
      if step = ".." then walk root place.dropLast rest
      else if (entries.lookup step).isSome then walk root (place ++ [step]) rest
      else .error .notFound
    | some _ => .error .notFolder
    | none => .error .notFound

def resolve (disk : Disk) (path : String) : Except DiskError (List String) :=
  match disk.start path with
  | none => .error .notFound
  | some origin =>
    if path = "" then .error .notFound
    else
      match walk disk.root origin (steps path) with
      | .error e => .error e
      | .ok place =>
        if needsFolder path && ((disk.root.find? place).map Node.isFile).getD false then
          .error .notFolder
        else .ok place

def get (disk : Disk) (path : String) : Except DiskError Node := do
  let place ← disk.resolve path
  match disk.root.find? place with
  | some node => .ok node
  | none => .error .notFound

/-! Reading -/

def has (disk : Disk) (path : String) : Bool :=
  (disk.get path).isOk

def isFile (disk : Disk) (path : String) : Bool :=
  match disk.get path with
  | .ok node => node.isFile
  | .error _ => false

def size (disk : Disk) (path : String) : Except DiskError Nat :=
  (disk.get path).map fun
    | .file content => content.size
    | .locked size => size
    | .folder _ _ => 0

def absolute (disk : Disk) (path : String) : Except DiskError String :=
  (disk.resolve path).map fun place => "/" ++ String.intercalate "/" place

def readBytes (disk : Disk) (path : String) : Except DiskError ByteArray := do
  match ← disk.get path with
  | .file content => .ok content
  | .locked _ => .error .denied
  | .folder _ _ => .error .isFolder

def textOf (content : ByteArray) : Except DiskError String :=
  match Text.decodeUtf8? content with
  | some text => .ok text
  | none => .error .notText

def readText (disk : Disk) (path : String) : Except DiskError String := do
  textOf (← disk.readBytes path)

/-! Writing -/

def target (disk : Disk) (path : String) : Except DiskError (List String) :=
  match disk.start path, (steps path).getLast? with
  | none, _ => .error .notFound
  | some _, none => .error (if path = "" then .notFound else .isFolder)
  | some origin, some last => do
    let folder ← walk disk.root origin (steps path).dropLast
    match disk.root.find? folder with
    | some (.folder writable entries) =>
      if last = ".." then .error .isFolder
      else
        match entries.lookup last with
        | some (.folder _ _) => .error .isFolder
        | some (.locked _) => .error (if needsFolder path then .notFolder else .denied)
        | some (.file _) => if needsFolder path then .error .notFolder else .ok (folder ++ [last])
        | none =>
          if needsFolder path then .error .isFolder
          else if writable then .ok (folder ++ [last])
          else .error .denied
    | some _ => .error .notFolder
    | none => .error .notFound

def graft (disk : Disk) (place : List String) (node : Node) : Disk :=
  { disk with root := disk.root.set (some node) place }

def fits (disk : Disk) (content : ByteArray) : Bool :=
  match disk.space with
  | some bytes => content.size ≤ bytes
  | none => true

def taken (disk : Disk) (content : ByteArray) : ByteArray :=
  match disk.space with
  | some bytes => content.extract 0 bytes
  | none => content

def fill (disk : Disk) (place : List String) (content : ByteArray) : Disk × Option DiskError :=
  (disk.graft place (.file (disk.taken content)), if disk.fits content then none else some .full)

def write (disk : Disk) (path : String) (content : ByteArray) : Disk × Option DiskError :=
  match disk.target path with
  | .error e => (disk, some e)
  | .ok place => disk.fill place content

def makeSteps (root : Node) (place : List String) : List String → Node × Option DiskError
  | [] => (root, none)
  | step :: rest =>
    match root.find? place with
    | some (.folder writable entries) =>
      if step = ".." then makeSteps root place.dropLast rest
      else
        match entries.lookup step with
        | none =>
          if writable then
            makeSteps (root.set (some .empty) (place ++ [step])) (place ++ [step]) rest
          else (root, some .denied)
        | some (.folder _ _) => makeSteps root (place ++ [step]) rest
        | some _ => (root, some (if rest.isEmpty then .alreadyExists else .notFolder))
    | some _ => (root, some .notFolder)
    | none => (root, some .notFound)

def makeFolders (disk : Disk) (path : String) : Disk × Option DiskError :=
  match disk.start path with
  | none => (disk, some .notFound)
  | some origin =>
    let (root, problem) := makeSteps disk.root origin (steps path)
    ({ disk with root := root }, problem)

/-! Removing -/

def shrunk (disk : Disk) (root : Node) : Disk :=
  { disk with root := root, working := disk.working.filter fun place => (root.find? place).isSome }

/-- Why a folder that has been emptied is not removed by a path that ends in two dots: they lead up
from a folder that was in it, unless there are no steps before them. -/
def stepUpError (root : Node) (origin : Option (List String)) (path : String) : DiskError :=
  match origin.map fun place => walk root place (steps path).dropLast with
  | some (.error e) => e
  | _ => .notEmpty

/-- Removes a folder with all that is in it.  By a path that ends in dots it loses its content
only. -/
def removeFolder (disk : Disk) (path : String) : Disk × Option DiskError :=
  match disk.resolve path with
  | .error e => (disk, some e)
  | .ok place =>
    match disk.root.find? place with
    | some (.folder writable entries) =>
      let (left, done) := (Node.folder writable entries).emptied
      let root := disk.root.set (some left) place
      let last := (Path.pieces path).getLast?
      if !done then (disk.shrunk root, some .denied)
      else if last = none then (disk.shrunk root, some .busy)
      else if last = some "." then (disk.shrunk root, some .invalid)
      else if last = some ".." then
        (disk.shrunk root, some (stepUpError root (disk.start path) path))
      else
        match disk.root.find? place.dropLast with
        | some (.folder true _) => (disk.shrunk (disk.root.set none place), none)
        | _ => (disk.shrunk root, some .denied)
    | some _ => (disk, some .notFolder)
    | none => (disk, some .notFound)

/-! Files that others leave -/

def parentPath (path : String) : String :=
  (if Path.isAbsolute path then "/" else "") ++ String.intercalate "/" (steps path).dropLast

/-- Puts a file (or a folder, where there is no content) with the folders around it, as far as it
can. -/
def put (disk : Disk) (path : String) (content : Option ByteArray) : Disk :=
  match content with
  | none => (disk.makeFolders path).1
  | some bytes =>
    match disk.makeFolders (parentPath path) with
    | (made, some _) => made
    | (made, none) =>
      match made.target path with
      | .ok place => made.graft place (.file bytes)
      | .error _ => made

def putAll (disk : Disk) (items : List (String × Option ByteArray)) : Disk :=
  items.foldl (fun disk item => disk.put item.1 item.2) disk

end Disk

end ApkAudit
