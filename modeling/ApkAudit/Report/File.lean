import ApkAudit.Disk.Basic
import ApkAudit.Log
import ApkAudit.Report.Basic

/-!
The report as a file in a folder of its own.
-/

namespace ApkAudit.Report

def folder (results name : String) : String :=
  Path.join results name

def file (results name : String) : String :=
  Path.join (folder results name) "results.json"

def bufferSize : Nat := 8192

/-- What has left the buffer when the whole text has been put into it. -/
def handedOn (content : ByteArray) : ByteArray :=
  content.extract 0 ((content.size - 1) / bufferSize * bufferSize)

def content (r : Report) : ByteArray :=
  r.json.pretty.toUTF8

/-- Why a content is not written: the device fills up while it is put into the buffer, or only when
the rest of the buffer is handed on. -/
def writeFailure (disk : Disk) (path : String) (content : ByteArray) (e : DiskError) : Failure :=
  if disk.fits (handedOn content) then e.failure.within s!"could not write {path}" else e.failure

def save (r : Report) (disk : Disk) (results name : String) :
    Logged (Except Failure Unit × Disk) :=
  let folder := folder results name
  let path := file results name
  match disk.makeFolders folder with
  | (disk, some e) => pure (.error (e.failure.within s!"could not create {folder}"), disk)
  | (disk, none) => do
    Log.debug .reportFile s!"writing JSON report to {path}"
    match disk.target path with
    | .error e => pure (.error (e.failure.within s!"could not create {path}"), disk)
    | .ok place =>
      match disk.fill place r.content with
      | (after, some e) => pure (.error (writeFailure disk path r.content e), after)
      | (after, none) => pure (.ok (), after)

end ApkAudit.Report
