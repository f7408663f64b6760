import ApkAudit.Disk.Basic

/-!
The machine that a scan runs on: its disk, and the tool that decodes packages.
-/

namespace ApkAudit

structure Decoder where
  succeeds : Bool := true
  complaint : ByteArray := ByteArray.empty
  files : List (String × Option ByteArray) := []

/-- The decoding tool may be missing.  The commands that it was given are kept. -/
structure Machine where
  disk : Disk := {}
  decoder : Option Decoder := none
  commands : List (List String) := []

namespace Machine

def decodeCommand (tool folder package : String) : List String :=
  ["-jar", tool, "d", "-f", "-o", folder, package]

def unpack (disk : Disk) (folder : String) (files : List (String × Option ByteArray)) : Disk :=
  if files.isEmpty then disk
  else
    (disk.put folder none).putAll
      (files.map fun (path, content) => (Path.join folder path, content))

def decode (machine : Machine) (tool folder package : String) : Option Decoder × Machine :=
  match machine.decoder with
  | none => (none, machine)
  | some decoder =>
    (some decoder, { machine with
      disk := unpack machine.disk folder decoder.files
      commands := machine.commands ++ [decodeCommand tool folder package] })

end Machine

end ApkAudit
