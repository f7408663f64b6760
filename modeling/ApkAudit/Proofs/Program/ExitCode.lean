import ApkAudit.Program.Basic
import ApkAudit.Proofs.Audit.Composition
import ApkAudit.Proofs.Disk.Creation
import ApkAudit.Proofs.Package.Loading
import ApkAudit.Proofs.Report.Lossless

/-! The exit code of a scan: it tells whether the settings were in order and the report could be
saved.  What goes wrong with the package itself is said in the report. -/

namespace ApkAudit

namespace Report

variable {r : Report} {disk saved : Disk} {results name : String}

end Report

end ApkAudit

namespace ApkAudit.Program

variable {a : Arguments} {s : Settings} {machine : Machine} {package : String} {o : Occasion}

namespace Settings

/-- The settings that a run starts from: those of the configuration file in the working folder, of
the global one where there is no other, and the defaults where there is none at all. -/
inductive Starts (disk : Disk) : Settings → Prop
  | own {text : String} {s : Settings} : disk.readText "config.toml" = .ok text →
      ofToml (defaults disk) text = .ok s → Starts disk { s with files := ["config.toml"] }
  | shared {text : String} {s : Settings} : disk.has "config.toml" = false →
      disk.readText "/etc/apk-vectors/config.toml" = .ok text →
      ofToml (defaults disk) text = .ok s →
      Starts disk { s with files := ["/etc/apk-vectors/config.toml"] }
  | bare : disk.has "config.toml" = false → disk.has "/etc/apk-vectors/config.toml" = false →
      Starts disk (defaults disk)

def reportPath (s : Settings) (package : String) : String :=
  Path.join (Path.join s.resultsFolder (Package.fileName package)) "results.json"

lemma value_save (s : Settings) (report : Report) (machine : Machine) (package : String) :
    (s.save report machine package).value =
      if s.json then
        let saved := (report.save machine.disk s.resultsFolder (Package.fileName package)).value
        (saved.1, { machine with disk := saved.2 })
      else (.ok (), machine) := by
  unfold save
  split
  · simp only [Logged.value_bind]
    rfl
  · rfl

lemma readBytes_save {report : Report} (hj : s.json = true)
    (h : (s.save report machine package).value.1 = .ok ()) :
    (s.save report machine package).value.2.disk.readBytes (s.reportPath package) =
      .ok (report.fileText report.status.text).toUTF8 := by
  rw [value_save, if_pos hj] at h ⊢
  have hsaved := Report.readBytes_save (Prod.ext h rfl)
  rwa [Report.pretty_json] at hsaved

end Settings

end ApkAudit.Program
