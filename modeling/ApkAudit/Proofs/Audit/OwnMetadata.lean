import ApkAudit.Proofs.Audit.Composition
import ApkAudit.Proofs.Report.WriteLog

/-! What detectors write cannot change what a successful scan says about itself.  Its metadata
follows one log: what the engine writes at first, what the detectors write, what the engine writes
at last. The engine hides keys in the first and in the last part, and the last part has the last
word. -/

namespace ApkAudit

def Detector.writes (d : Detector) (c : Context) : List MetadataWrite :=
  if (d.analyze c).ending = .crashed then [] else (d.analyze c).calls.filterMap Writer.written?

namespace Context

open Report

variable (package : Package) (fingerprint : Fingerprint)

def manifestWrites : List MetadataWrite :=
  [⟨"platform", .string "Android", false⟩,
    ⟨"package_name", .string (Text.trim package.packageName), false⟩] ++
  ((package.versionName.filter fun v => !Text.isBlankText v).map fun v =>
    ⟨"package_version_name", .string v, false⟩).toList ++
  ((package.versionCode.filter fun v => !Text.isBlankText v).map fun v =>
    ⟨"package_version_code", versionCodeJson v, false⟩).toList

def fileWrites : List MetadataWrite :=
  let sdk := resolveSdk package.minSdk package.targetSdk
  [⟨"minSdk", .int sdk.1, false⟩, ⟨"targetSdk", .int sdk.2, false⟩,
    ⟨"file_md5", .string fingerprint.md5, false⟩, ⟨"file_sha1", .string fingerprint.sha1, false⟩,
    ⟨"file_sha256", .string fingerprint.sha256, false⟩,
    ⟨"file_sha512", .string fingerprint.sha512, false⟩]

lemma recordPackage_eq (r : Report) :
    recordPackage package (Text.trim package.packageName) r =
      r.record (manifestWrites package) := by
  unfold recordPackage manifestWrites
  cases package.versionName.filter fun v => !Text.isBlankText v <;>
    cases package.versionCode.filter fun v => !Text.isBlankText v <;> simp

lemma described_eq (r : Report) : Engine.described package fingerprint r =
    r.record (manifestWrites package ++ fileWrites package fingerprint) := by
  rw [record_append, ← recordPackage_eq]
  simp only [Engine.described, recordFile, fileWrites, record_cons, record_nil]

end Context

namespace Engine

open Report

lemma metadata_runDetector (c : Context) (r : Report) (d : Detector) :
    (runDetector c r d).value.metadata = r.metadata.writeAll (d.writes c) := by
  have hw : (d.write c).value.metadata = (d.analyze c).calls.filterMap Writer.written? := by
    rw [Detector.write, Writer.metadata_run]
    exact List.nil_append _
  unfold runDetector Detector.writes
  simp only [Logged.value_bind]
  cases (d.analyze c).ending with
  | complete => simp [metadata_merge, hw]
  | incomplete reasons => simp [metadata_merge, hw]
  | crashed => rfl

lemma metadata_runDetectors (c : Context) (r : Report) (ds : List Detector) :
    (runDetectors c r ds).value.metadata = r.metadata.writeAll (ds.flatMap (·.writes c)) := by
  induction ds generalizing r with
  | nil => rfl
  | cons d ds ih =>
    rw [runDetectors, Logged.value_bind, ih, metadata_runDetector, List.flatMap_cons,
      Metadata.writeAll_append]

section Writes

variable (options : ScanOptions) (disk : Disk) (path : String) (bytes : Nat) (o : Occasion)
  (package : Package) (fingerprint : Fingerprint)

def openingWrites : List MetadataWrite :=
  [⟨"analyze_mode", .string options.mode, true⟩,
    ⟨"analyze_engine_build", .int options.engineBuild, true⟩,
    ⟨"analyze_tag", (options.tag.map .string).getD .null, true⟩,
    ⟨"apk_filepath_absolute", .string ((disk.absolute path).toOption.getD path), true⟩,
    ⟨"apk_file_size", .float (.ofRatio false bytes megabyte), true⟩,
    ⟨"time_starting_analyze", .string o.started, true⟩] ++
  (Context.manifestWrites package ++ Context.fileWrites package fingerprint)

def closingWrites (total : Nat) (signature : Json) : List MetadataWrite :=
  [⟨"vector_total_count", .int total, true⟩, ⟨"time_total", .float o.total, true⟩,
    ⟨"time_analyze", .float o.analysis, true⟩, ⟨"time_loading_vm", .float o.loading, true⟩,
    ⟨"time_finish_analyze", .string o.finished, true⟩,
    ⟨"signature_unique_analyze", signature, true⟩]

lemma nodup_closingWrites (total : Nat) (signature : Json) :
    ((closingWrites o total signature).map MetadataWrite.key).Nodup := by
  simp [closingWrites]

lemma metadata_opening :
    (opening package path fingerprint o disk bytes (recordOptions options .empty)).metadata =
      Metadata.writeAll {} (openingWrites options disk path bytes o package fingerprint) := by
  rw [opening, Context.described_eq, metadata_record, openingWrites]
  generalize Context.manifestWrites package ++ Context.fileWrites package fingerprint = writes
  rw [Metadata.writeAll_append]
  apply congrArg (Metadata.writeAll · _)
  obtain ⟨mode, build, tag, debugTag⟩ := options
  cases tag <;> simp [recordStart, recordPlace, recordOptions, Metadata.writeAll]

lemma metadata_finish (r : Report) :
    (finish o (recordSuccess o r)).metadata = r.metadata.writeAll (closingWrites o r.totalFindings
      (signature (recordSuccess o r) o.scanSeal "package_name" "pkg")) := rfl

lemma signature_finish (r : Report) (s : Seal) :
    signature (finish o r) s "package_name" "pkg" = signature r s "package_name" "pkg" := by
  have hget : ∀ key, key ≠ "signature_unique_analyze" →
      (finish o r).metadata.get? key = r.metadata.get? key :=
    fun key hk => Metadata.get?_set_ne hk _ _ _
  simp only [signature, Metadata.textOr, hget "package_name" (by decide),
    hget "file_sha256" (by decide)]

def reportOnlyKeys : List String :=
  ["analyze_mode", "analyze_engine_build", "analyze_tag", "apk_filepath_absolute", "apk_file_size",
    "time_starting_analyze", "vector_total_count", "time_total", "time_analyze", "time_loading_vm",
    "time_finish_analyze", "signature_unique_analyze"]

lemma hidden_packageWrites :
    (Context.manifestWrites package ++ Context.fileWrites package fingerprint).filter (·.hidden) =
      [] := by
  unfold Context.manifestWrites Context.fileWrites
  cases package.versionName.filter fun v => !Text.isBlankText v <;>
    cases package.versionCode.filter fun v => !Text.isBlankText v <;> simp

lemma hidden_writes (total : Nat) (signature : Json) :
    ((openingWrites options disk path bytes o package fingerprint ++
      closingWrites o total signature).filter (·.hidden)).map MetadataWrite.key =
        reportOnlyKeys := by
  have hshown := hidden_packageWrites package fingerprint
  rw [openingWrites, List.append_assoc, List.filter_append, List.filter_append, hshown]
  simp [closingWrites, reportOnlyKeys]

end Writes

/-- What holds of the metadata of a successful scan, whatever the detectors have written. -/
structure OwnMetadata (engine : Engine) (load : Loader) (machine : Machine) (path : String)
    (o : Occasion) (report : Report) : Prop where
  log : ∃ package bytes fingerprint, (load machine path).value.1 = .ok package ∧
    report.metadata.Records
      (openingWrites engine.options machine.disk path bytes o package fingerprint ++
        (engine.catalogue.select engine.options.debugTag).flatMap
          (·.writes (.ofPackage package engine.exclusions)) ++
        closingWrites o report.totalFindings (signature report o.scanSeal "package_name" "pkg"))
  hidden : ∀ key ∈ reportOnlyKeys,
    report.sets key = true ∧ ∀ value, (key, value) ∉ report.metadata.printable
  count : report.metadata.get? "vector_total_count" = some (.int report.totalFindings)
  total : report.metadata.get? "time_total" = some (.float o.total)
  analysis : report.metadata.get? "time_analyze" = some (.float o.analysis)
  loading : report.metadata.get? "time_loading_vm" = some (.float o.loading)
  finished : report.metadata.get? "time_finish_analyze" = some (.string o.finished)
  signed : report.metadata.get? "signature_unique_analyze" =
    some (signature report o.scanSeal "package_name" "pkg")

lemma records_scan (engine : Engine) (load : Loader) (machine : Machine) (path : String)
    (o : Occasion) (h : Accepted load machine path) :
    ∃ package bytes fingerprint, (load machine path).value.1 = .ok package ∧
      let report := (engine.scan load machine path o).value.1
      report.metadata.Records
        (openingWrites engine.options machine.disk path bytes o package fingerprint ++
          (engine.catalogue.select engine.options.debugTag).flatMap
            (·.writes (.ofPackage package engine.exclusions)) ++
          closingWrites o report.totalFindings
            (signature report o.scanSeal "package_name" "pkg")) := by
  obtain ⟨package, bytes, fingerprint, hl, hs⟩ := scan_opened engine load machine path o h
  refine ⟨package, bytes, fingerprint, hl, ?_⟩
  intro report
  obtain ⟨ran, hran, hscan⟩ : ∃ ran : Report, ran.metadata =
      Metadata.writeAll {} (openingWrites engine.options machine.disk path bytes o package
        fingerprint ++ (engine.catalogue.select engine.options.debugTag).flatMap
          (·.writes (.ofPackage package engine.exclusions))) ∧
      report = finish o (recordSuccess o ran) := by
    refine ⟨_, ?_, hs engine.catalogue⟩
    rw [metadata_runDetectors, metadata_setStatus, metadata_opening, Metadata.writeAll_append]
  have htotal : report.totalFindings = ran.totalFindings := by
    rw [totalFindings, totalFindings, hscan, findings_finish]
  have hsignature : signature report o.scanSeal "package_name" "pkg" =
      signature (recordSuccess o ran) o.scanSeal "package_name" "pkg" := by
    rw [hscan, signature_finish]
  rw [htotal, hsignature, hscan, metadata_finish, hran]
  exact ((Metadata.Reflects.empty.writeAll _).writeAll _).records

lemma ownMetadata_of_records {engine : Engine} {load : Loader} {machine : Machine} {path : String}
    {o : Occasion} {report : Report} {package : Package} {bytes : Nat} {fingerprint : Fingerprint}
    (hl : (load machine path).value.1 = .ok package)
    (h : report.metadata.Records
      (openingWrites engine.options machine.disk path bytes o package fingerprint ++
        (engine.catalogue.select engine.options.debugTag).flatMap
          (·.writes (.ofPackage package engine.exclusions)) ++
        closingWrites o report.totalFindings
          (signature report o.scanSeal "package_name" "pkg"))) :
    OwnMetadata engine load machine path o report := by
  have hclosing : ∀ w ∈ closingWrites o report.totalFindings
      (signature report o.scanSeal "package_name" "pkg"),
      report.metadata.get? w.key = some w.value :=
    fun w hw => h.get?_of_mem_last (nodup_closingWrites o _ _) hw
  simp only [closingWrites, List.forall_mem_cons] at hclosing
  obtain ⟨hcount, htotal, hanalysis, hloading, hfinished, hsigned, -⟩ := hclosing
  refine ⟨⟨package, bytes, fingerprint, hl, h⟩, ?_, hcount, htotal, hanalysis, hloading,
    hfinished, hsigned⟩
  intro key hk
  rw [← hidden_writes engine.options machine.disk path bytes o package fingerprint
    report.totalFindings (signature report o.scanSeal "package_name" "pkg")] at hk
  obtain ⟨w, hw, rfl⟩ := List.mem_map.mp hk
  obtain ⟨hw, hh⟩ := List.mem_filter.mp hw
  exact h.hidden_around hw hh

/-- Metadata follows the log of the writes that count.  So the metadata of a successful scan tells
what the engine says, whatever the detectors write. -/
theorem metadata_follows_writes :
    (∀ events, (Session.run {} events).report.metadata.Records
      (Session.effective (fun _ => []) events)) ∧
    ∀ (engine : Engine) (load : Loader) (machine : Machine) (path : String) (o : Occasion),
      (engine.scan load machine path o).value.1.status = .success →
        OwnMetadata engine load machine path o (engine.scan load machine path o).value.1 := by
  constructor
  · intro events
    exact (Session.reflects_run (s := {}) Metadata.Reflects.empty events).records
  · intro engine load machine path o hs
    obtain ⟨package, bytes, fingerprint, hl, hr⟩ := records_scan engine load machine path o
      ((status_scan_eq_success_iff engine load machine path o).mp hs)
    exact ownMetadata_of_records hl hr

def forger : Detector where
  name := "forger"
  tags := ["FORGED"]
  description := ""
  analyze _ := ⟨[.start "FORGED" .info "" "", .setMetadata "vector_total_count" (.int 0) false,
    .setMetadata "analyze_mode" (.string "forged") false], .complete⟩

theorem metadata_follows_writes_forger :
    let engine : Engine := { catalogue := ⟨[forger]⟩, exclusions := {} }
    (engine.scan plainLoad plainMachine "app.apk" still).value.1.status = .success ∧
      OwnMetadata engine plainLoad plainMachine "app.apk" still
        (engine.scan plainLoad plainMachine "app.apk" still).value.1 := by
  intro engine
  have hs := (status_scan_eq_success_iff engine plainLoad plainMachine "app.apk" still).mpr
    accepted_plain
  exact ⟨hs, metadata_follows_writes.2 engine plainLoad plainMachine "app.apk" still hs⟩

end Engine

end ApkAudit
