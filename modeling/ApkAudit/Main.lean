import ApkAudit.Audit.Moment
import ApkAudit.Disk.Change
import ApkAudit.Program.Basic
import Std.Time.DateTime.Timestamp

/-!
The command line: it reads the working folder and what the arguments name elsewhere, runs the
program on that, and carries out what the program changes there.  The decoding tool is not started
from here, so packages are scanned from folders that are decoded already.
-/

namespace ApkAudit.Console

def maxDepth : Nat := 256

def readEntry : Nat → IO.FS.DirEntry → IO (Option (String × Node))
  | 0, _ => pure none
  | depth + 1, entry => do
    let metadata ← entry.path.metadata
    match metadata.type with
    | .dir =>
      let below ← (← entry.path.readDir).toList.filterMapM (readEntry depth)
      pure (some (entry.fileName, .folder true below))
    | .file =>
      try pure (some (entry.fileName, .file (← IO.FS.readBinFile entry.path)))
      catch _ => pure (some (entry.fileName, .locked metadata.byteSize.toNat))
    | _ => pure none

def plant (node : Node) : List String → Node → Node
  | [], _ => node
  | name :: names, .folder writable entries =>
    let below := plant node names ((entries.lookup name).getD .empty)
    .folder writable (Node.setEntry name (some below) entries)
  | name :: names, _ => .folder true [(name, plant node names .empty)]

def look (root : Node) (path : String) : IO Node := do
  try
    let found ← IO.FS.realPath path
    let place := Path.pieces found.toString
    let metadata ← found.metadata
    match metadata.type with
    | .dir =>
      let below ← (← found.readDir).toList.filterMapM (readEntry maxDepth)
      pure (plant (.folder true below) place root)
    | .file =>
      try pure (plant (.file (← IO.FS.readBinFile found)) place root)
      catch _ => pure (plant (.locked metadata.byteSize.toNat) place root)
    | _ => pure root
  catch _ => pure root

def outside (arguments : List String) : List String :=
  (arguments.flatMap (Text.split '=')).filter fun text =>
    Path.isAbsolute text || (Path.pieces text).head? = some ".."

def readDisk (arguments : List String) : IO Disk := do
  let working ← IO.currentDir
  let known := [Program.Settings.sharedFolder, Program.Settings.globalConfigurationFile]
  let root ← (known ++ outside arguments ++ [working.toString]).foldlM look .empty
  pure { root := root, working := some (Path.pieces working.toString) }

def pathOf (place : List String) : String :=
  "/" ++ String.intercalate "/" place

def carryOut : Change → IO Unit
  | .removeFile place => IO.FS.removeFile (pathOf place)
  | .removeFolder place => IO.FS.removeDirAll (pathOf place)
  | .makeFolder place => IO.FS.createDirAll (pathOf place)
  | .write place content => IO.FS.writeBinFile (pathOf place) content

def now : IO Moment := do
  let t ← Std.Time.Timestamp.now
  let nanoseconds := t.toNanosecondsSinceUnixEpoch.val.toNat
  pure ⟨nanoseconds / 1000000000, nanoseconds % 1000000000⟩

def nonce : IO Nat := do
  let bytes ← IO.getRandomBytes 16
  pure (10000000 + bytes.toList.foldl (fun n b => 256 * n + b.toNat) 0 % 90000000)

def occasion (started finished : Moment) (milliseconds : Nat) : IO Occasion := do
  let lasts := Number.Binary64.ofRatio false milliseconds 1000
  pure {
    started := started.text
    finished := finished.text
    failed := finished.text
    total := lasts
    analysis := lasts
    loading := .ofRatio false 0 1
    scanSeal := ⟨finished.stamp, ← nonce⟩
    failureSeal := ⟨finished.stamp, ← nonce⟩ }

/-- Runs the program.  What the report says about time is measured on a first
run, which leaves nothing behind. -/
def run (arguments : List String) : IO UInt32 := do
  let disk ← readDisk arguments
  let spec ← IO.getEnv "RUST_LOG"
  let perform (o : Occasion) : IO Program.Response :=
    IO.lazyPure fun _ => Program.respond arguments spec { disk := disk } o
  let started ← now
  let before ← IO.monoMsNow
  let _ ← perform (← occasion started started 0)
  let after ← IO.monoMsNow
  let response ← perform (← occasion started (← now) (after - before))
  (disk.changes response.machine.disk).forM carryOut
  response.output.forM fun line => IO.println line
  response.errors.forM fun line => IO.eprintln line
  pure response.exitCode

end ApkAudit.Console

def main (arguments : List String) : IO UInt32 :=
  ApkAudit.Console.run arguments
