import ApkAudit.Log
import ApkAudit.Report.Finding

/-!
The writer of one detector: findings, the open one among them, and pending metadata.
-/

namespace ApkAudit

structure MetadataWrite where
  key : String
  value : Json
  hidden : Bool

structure Writer where
  findings : List Finding := []
  isOpen : Bool := false
  metadata : List MetadataWrite := []

inductive WriterCall where
  | start (tag : String) (level : Level) (title description : String)
  | detail (line : String)
  | close
  | setMetadata (key : String) (value : Json) (hidden : Bool)

namespace Writer

def empty : Writer := {}

def start (w : Writer) (tag : String) (level : Level) (title description : String) : Writer :=
  { w with findings := w.findings ++ [{ tag, level, title, description }], isOpen := true }

def addDetail (line : String) : List Finding → List Finding
  | [] => []
  | [f] => [{ f with details := f.details ++ [line] }]
  | f :: g :: rest => f :: addDetail line (g :: rest)

/-- Adds a line to the open finding; without one the line is lost. -/
def detail (w : Writer) (line : String) : Logged Writer :=
  if w.isOpen && !w.findings.isEmpty then
    pure { w with findings := addDetail line w.findings }
  else do
    Log.warning .reportWriter s!"detail line written without an open finding: {line}"
    pure w

def close (w : Writer) : Writer :=
  { w with isOpen := false }

def setMetadata (w : Writer) (key : String) (value : Json) (hidden : Bool) : Writer :=
  { w with metadata := w.metadata ++ [⟨key, value, hidden⟩] }

def apply (w : Writer) : WriterCall → Logged Writer
  | .start tag level title description => pure (w.start tag level title description)
  | .detail line => w.detail line
  | .close => pure w.close
  | .setMetadata key value hidden => pure (w.setMetadata key value hidden)

def run (w : Writer) : List WriterCall → Logged Writer
  | [] => pure w
  | call :: rest => do (← w.apply call).run rest

end Writer

end ApkAudit
