import ApkAudit.Disk.Digest
import ApkAudit.Machine
import ApkAudit.Package.CodeUnits
import ApkAudit.Package.Decoded

/-!
Loading a package file: it is decoded into a folder of its own, unless that folder holds a complete
decoding of the same file already, and then read from there.
-/

namespace ApkAudit

abbrev Loader := Machine → String → Logged (Except Failure Package × Machine)

structure Decoding where
  tool : String := "vendor/apktool.jar"
  folder : String := "dist"
  force : Bool := false

namespace Decoding

def folderOf (decoding : Decoding) (path : String) : String :=
  Path.join decoding.folder (Package.fileName path)

def markerOf (folder : String) : String :=
  Path.join folder ".apk-vectors-decoded"

def isDecoded (disk : Disk) (folder digest : String) : Bool :=
  match disk.readText (markerOf folder) with
  | .ok text => Text.trim text == digest
  | .error _ => false

def clear (disk : Disk) (folder : String) : Logged Disk :=
  if disk.has folder then do
    Log.debug .decoding s!"the decoded folder {folder} is stale, removing it"
    match disk.removeFolder folder with
    | (disk, none) => pure disk
    | (disk, some e) => do
      let message := e.message
      Log.warning .notices s!"There was an error when removing the decompression folder: {message}"
      pure disk
  else pure disk

def mark (disk : Disk) (folder digest : String) : Except Failure Unit × Disk :=
  match disk.write (markerOf folder) digest.toUTF8 with
  | (disk, none) => (.ok (), disk)
  | (disk, some e) => (.error (e.failure.within s!"could not mark {folder} as decoded"), disk)

def decode (decoding : Decoding) (machine : Machine) (path folder digest : String) :
    Logged (Except Failure Unit × Machine) := do
  Log.debug .decoding s!"decoding {path} into {folder}"
  match machine.decode decoding.tool folder path with
  | (none, machine) =>
    let message := DiskError.notFound.message
    pure (.error (.ofFault
      (.decoding s!"there was an error when executing apktool: {message}")), machine)
  | (some decoder, machine) =>
    if decoder.succeeds then
      match mark machine.disk folder digest with
      | (.error failure, disk) => pure (.error failure, { machine with disk := disk })
      | (.ok (), disk) => do
        Log.info .decoding s!"The application has been decoded in {folder}."
        pure (.ok (), { machine with disk := disk })
    else
      let complaint := Text.trim (Text.decodeLossy decoder.complaint)
      pure (.error (.ofFault (.decoding s!"apktool returned an error: {complaint}")), machine)

def prepare (decoding : Decoding) (machine : Machine) (path folder digest : String) :
    Logged (Except Failure Unit × Machine) :=
  if !decoding.force && isDecoded machine.disk folder digest then do
    Log.info .decoding (s!"Seems that the application has already been decoded in {folder}. " ++
      "There is no need to do it again.")
    pure (.ok (), machine)
  else do
    let disk ← clear machine.disk folder
    decoding.decode { machine with disk := disk } path folder digest

def inspect (disk : Disk) (path : String) : Except Failure (Nat × String) := do
  let codeUnits ← Package.countCodeUnits disk path
  let fingerprint ← disk.fingerprint path
  return (codeUnits, fingerprint.sha256)

def load (decoding : Decoding) : Loader := fun machine path =>
  match inspect machine.disk path with
  | .error failure => pure (.error failure, machine)
  | .ok (codeUnits, digest) => do
    let folder := decoding.folderOf path
    match ← decoding.prepare machine path folder digest with
    | (.error failure, machine) => pure (.error failure, machine)
    | (.ok (), machine) => do
      pure (← Package.readDecoded machine.disk folder codeUnits, machine)

end Decoding

end ApkAudit
