import ApkAudit.Json.Value
import ApkAudit.Report.Level

/-!
Findings, and the writer that collects those of one detector.
-/

namespace ApkAudit

structure Finding where
  tag : String
  level : Level
  title : String
  description : String
  details : List String := []
deriving DecidableEq, Repr

def Finding.json (f : Finding) : Json :=
  .object [("tag", .string f.tag), ("level", .string f.level.text), ("title", .string f.title),
    ("description", .string f.description), ("details", .array (f.details.map .string))]

end ApkAudit
