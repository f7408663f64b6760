import ApkAudit.Audit.Context

/-!
Detectors: independent rules that read the context of a package and write findings.
-/

namespace ApkAudit

inductive Ending where
  | complete
  /-- Some branches were skipped, each for a reason. -/
  | incomplete (reasons : List String)
  /-- The detector broke down; what it wrote does not count. -/
  | crashed
deriving DecidableEq, Repr

structure Analysis where
  calls : List WriterCall
  ending : Ending

structure Detector where
  name : String
  tags : List String
  description : String
  analyze : Context → Analysis

def Finding.calls (f : Finding) : List WriterCall :=
  .start f.tag f.level f.title f.description :: f.details.map .detail

namespace Analysis

def ofFindings (findings : List Finding) (problems : List String) : Analysis where
  calls := findings.flatMap Finding.calls
  ending := if problems.isEmpty then .complete else .incomplete problems

end Analysis

def Detector.write (d : Detector) (c : Context) : Logged Writer :=
  Writer.empty.run (d.analyze c).calls

end ApkAudit
