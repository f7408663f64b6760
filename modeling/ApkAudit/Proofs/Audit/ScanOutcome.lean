import ApkAudit.Audit.Scan
import ApkAudit.Proofs.Report.Metadata
import ApkAudit.Proofs.Text.Scan

/-! Every scan ends in a completed report, of success exactly if the package can be read, loaded
and checked.  A failed scan has run no detector. -/

namespace ApkAudit

lemma Logged.bind_congr {α β : Type} {x : Logged α} {f g : α → Logged β}
    (h : f x.value = g x.value) : x >>= f = x >>= g := by
  change Logged.bind x f = Logged.bind x g
  rw [Logged.bind, Logged.bind, h]

def Detector.Sets (d : Detector) (c : Context) (key : String) : Prop :=
  (d.analyze c).ending ≠ .crashed ∧
    ∃ value hidden, WriterCall.setMetadata key value hidden ∈ (d.analyze c).calls

namespace Engine

open Report

def failureKeys : List String :=
  ["analyze_error_id", "analyze_error_type_expected", "analyze_error_message",
    "analyze_error_time", "signature_unique_exception"]

def openingKeys : List String :=
  ["analyze_mode", "analyze_engine_build", "analyze_tag", "apk_filepath_absolute",
    "apk_file_size", "time_starting_analyze", "platform", "package_name", "package_version_name",
    "package_version_code", "minSdk", "targetSdk", "file_md5", "file_sha1", "file_sha256",
    "file_sha512"]

/-- The package file can be read, and the loader makes a package of it that has a name and code. -/
def Accepted (load : Loader) (machine : Machine) (path : String) : Prop :=
  machine.disk.isFile path = true ∧ (∃ bytes, machine.disk.size path = .ok bytes) ∧
    (∃ content, machine.disk.readBytes path = .ok content) ∧
    ∃ package, (load machine path).value.1 = .ok package ∧
      Text.trim package.packageName ≠ "" ∧ package.codeUnits ≠ 0

lemma recordPackage_sameBut (package : Package) (name : String) (r : Report) :
    SameBut openingKeys r (Context.recordPackage package name r) := by
  have h := ((SameBut.refl openingKeys r).setMetadata (by decide : "platform" ∈ openingKeys)
    (.string "Android") false).setMetadata (by decide : "package_name" ∈ openingKeys)
    (.string name) false
  unfold Context.recordPackage
  dsimp only
  split <;> split
  · exact (h.setMetadata (by decide) _ _).setMetadata (by decide) _ _
  · exact h.setMetadata (by decide) _ _
  · exact h.setMetadata (by decide) _ _
  · exact h

lemma recordFile_sameBut (f : Fingerprint) (minSdk targetSdk : Nat) (r : Report) :
    SameBut openingKeys r (Context.recordFile f minSdk targetSdk r) := by
  unfold Context.recordFile
  dsimp only
  iterate 6 refine SameBut.setMetadata ?_ (by decide) _ _
  exact SameBut.refl _ _

variable (package : Package) (path : String) (fingerprint : Fingerprint) (exclusions : Exclusions)

lemma build_refused (r : Report)
    (h : Text.trim package.packageName = "" ∨ package.codeUnits = 0) :
    ∃ failure after, (Context.build package path fingerprint exclusions r).value =
      (.error failure, after) ∧ SameBut openingKeys r after := by
  unfold Context.build
  dsimp only
  split
  · exact ⟨_, _, rfl, SameBut.refl _ _⟩
  · next hb =>
    have hc : package.codeUnits = 0 := h.resolve_left fun hn => hb (by rw [hn]; rfl)
    rw [if_pos hc]
    exact ⟨_, _, rfl, recordPackage_sameBut package _ r⟩

def described (r : Report) : Report :=
  let sdk := Context.resolveSdk package.minSdk package.targetSdk
  Context.recordFile fingerprint sdk.1 sdk.2
    (Context.recordPackage package (Text.trim package.packageName) r)

lemma described_sameBut (r : Report) : SameBut openingKeys r (described package fingerprint r) :=
  (recordPackage_sameBut package _ r).trans (recordFile_sameBut _ _ _ _)

lemma build_accepted (r : Report) (hn : Text.trim package.packageName ≠ "")
    (hc : package.codeUnits ≠ 0) :
    (Context.build package path fingerprint exclusions r).value =
      (.ok (.ofPackage package exclusions), described package fingerprint r) := by
  have hb : ¬ Text.isBlankText (Text.trim package.packageName) = true :=
    fun hb => hn (Text.isBlankText_trim hb)
  unfold Context.build
  dsimp only
  rw [if_neg hb, if_neg hc]
  rfl

variable (engine : Engine) (load : Loader) (machine : Machine) (o : Occasion)

lemma audit_refused (r : Report) (h : ¬ ∃ package, (load machine path).value.1 = .ok package ∧
      Text.trim package.packageName ≠ "" ∧ package.codeUnits ≠ 0) :
    (∃ failure after machine', (engine.audit load machine path fingerprint o r).value =
      (.error failure, after, machine') ∧ SameBut openingKeys r after) ∧
    ∀ catalogue, audit { engine with catalogue := catalogue } load machine path fingerprint o r =
      engine.audit load machine path fingerprint o r := by
  unfold audit
  rw [Logged.value_bind]
  rcases hl : (load machine path).value with ⟨outcome, machine'⟩
  cases outcome with
  | error failure =>
    refine ⟨⟨_, _, _, rfl, SameBut.refl _ _⟩, fun catalogue => Logged.bind_congr ?_⟩
    rw [hl]
  | ok package =>
    have hp : Text.trim package.packageName = "" ∨ package.codeUnits = 0 := by
      by_contra hne
      obtain ⟨hn, hc⟩ := not_or.mp hne
      exact h ⟨package, by rw [hl], hn, hc⟩
    obtain ⟨failure, after, hb, hs⟩ := build_refused package path fingerprint engine.exclusions
      (r.setStatus .startingPackage) hp
    constructor
    · refine ⟨failure, after, machine', ?_, ((SameBut.refl _ r).setStatus _).trans hs⟩
      simp only [Logged.value_bind, hb, Logged.value_pure]
    · intro catalogue
      refine Logged.bind_congr ?_
      rw [hl]
      refine Logged.bind_congr ?_
      rw [hb]

lemma audit_accepted (r : Report) (hl : (load machine path).value.1 = .ok package)
    (hn : Text.trim package.packageName ≠ "") (hc : package.codeUnits ≠ 0) :
    ∃ machine', ∀ catalogue,
      (audit { engine with catalogue := catalogue } load machine path fingerprint o r).value =
        (.ok (), (analyze { engine with catalogue := catalogue }
          (.ofPackage package engine.exclusions) o
          (described package fingerprint (r.setStatus .startingPackage))).value, machine') := by
  unfold audit
  rcases hv : (load machine path).value with ⟨outcome, machine'⟩
  obtain rfl : outcome = .ok package := by rw [← hl, hv]
  have hb := build_accepted package path fingerprint engine.exclusions
    (r.setStatus .startingPackage) hn hc
  refine ⟨machine', fun catalogue => ?_⟩
  simp only [Logged.value_bind, hv, hb, Logged.value_pure]

lemma recordPlace_sameBut (disk : Disk) (r : Report) :
    SameBut openingKeys r (recordPlace disk path r) :=
  (SameBut.refl _ r).setMetadata (by decide) _ _

lemma recordStart_sameBut (bytes : Nat) (r : Report) :
    SameBut openingKeys r (recordStart bytes o r) :=
  ((SameBut.refl _ r).setMetadata (by decide) _ _).setMetadata (by decide) _ _

lemma fingerprint_ok_iff (disk : Disk) :
    (∃ f, disk.fingerprint path = .ok f) ↔ ∃ content, disk.readBytes path = .ok content := by
  unfold Disk.fingerprint
  cases disk.readBytes path <;> simp

lemma run_refused (r : Report) (h : ¬ Accepted load machine path) :
    (∃ failure after machine', (engine.run load machine path o r).value =
      (.error failure, after, machine') ∧ SameBut openingKeys r after) ∧
    ∀ catalogue, run { engine with catalogue := catalogue } load machine path o r =
      engine.run load machine path o r := by
  have hplace := ((SameBut.refl openingKeys r).setStatus .loadingPackage).trans
    (recordPlace_sameBut path machine.disk _)
  unfold run
  dsimp only
  split
  · next hf =>
    cases hz : machine.disk.size path with
    | error e => exact ⟨⟨_, _, _, rfl, hplace⟩, fun _ => rfl⟩
    | ok bytes =>
      have hstart := hplace.trans (recordStart_sameBut o bytes _)
      cases hp : machine.disk.fingerprint path with
      | error failure => exact ⟨⟨_, _, _, rfl, hstart⟩, fun _ => rfl⟩
      | ok fingerprint =>
        have hl : ¬ ∃ package, (load machine path).value.1 = .ok package ∧
            Text.trim package.packageName ≠ "" ∧ package.codeUnits ≠ 0 := fun hl =>
          h ⟨hf, ⟨bytes, hz⟩, (fingerprint_ok_iff path machine.disk).mp ⟨fingerprint, hp⟩, hl⟩
        obtain ⟨⟨failure, after, machine', hv, hs⟩, hc⟩ :=
          audit_refused path fingerprint engine load machine o _ hl
        exact ⟨⟨failure, after, machine', hv, hstart.trans hs⟩, hc⟩
  · exact ⟨⟨_, _, _, rfl, (SameBut.refl _ r).setStatus _⟩, fun _ => rfl⟩

def opening (disk : Disk) (bytes : Nat) (r : Report) : Report :=
  described package fingerprint
    ((recordStart bytes o (recordPlace disk path (r.setStatus .loadingPackage))).setStatus
      .startingPackage)

lemma opening_sameBut (disk : Disk) (bytes : Nat) (r : Report) :
    SameBut openingKeys r (opening package path fingerprint o disk bytes r) := by
  have hstart := (((SameBut.refl openingKeys r).setStatus .loadingPackage).trans
    (recordPlace_sameBut path disk _)).trans (recordStart_sameBut o bytes _)
  exact (hstart.setStatus .startingPackage).trans (described_sameBut package fingerprint _)

lemma run_opened (r : Report) (h : Accepted load machine path) :
    ∃ package bytes fingerprint machine', (load machine path).value.1 = .ok package ∧ ∀ catalogue,
      (run { engine with catalogue := catalogue } load machine path o r).value =
        (.ok (), (analyze { engine with catalogue := catalogue }
          (.ofPackage package engine.exclusions) o
          (opening package path fingerprint o machine.disk bytes r)).value, machine') := by
  obtain ⟨hf, ⟨bytes, hz⟩, hc, package, hl, hn, hu⟩ := h
  obtain ⟨fingerprint, hp⟩ := (fingerprint_ok_iff path machine.disk).mpr hc
  obtain ⟨machine', hv⟩ := audit_accepted package path fingerprint engine load machine o
    (recordStart bytes o (recordPlace machine.disk path (r.setStatus .loadingPackage))) hl hn hu
  refine ⟨package, bytes, fingerprint, machine', hl, fun catalogue => ?_⟩
  simp only [run, hf, hz, hp, if_true]
  exact hv catalogue

lemma run_accepted (r : Report) (h : Accepted load machine path) :
    ∃ package opened machine', (load machine path).value.1 = .ok package ∧
      (engine.run load machine path o r).value =
        (.ok (), (engine.analyze (.ofPackage package engine.exclusions) o opened).value, machine') ∧
      SameBut openingKeys r opened := by
  obtain ⟨package, bytes, fingerprint, machine', hl, hv⟩ :=
    run_opened path engine load machine o r h
  exact ⟨package, _, machine', hl, hv engine.catalogue,
    opening_sameBut package path fingerprint o machine.disk bytes r⟩

lemma sets_merge_write {d : Detector} {c : Context} {r : Report} {key : String}
    (hd : (d.analyze c).ending ≠ .crashed) (h : (r.merge (d.write c).value).sets key = true) :
    r.sets key = true ∨ d.Sets c key := by
  rcases (sets_merge r _ key).mp h with h | ⟨m, hm, rfl⟩
  · exact Or.inl h
  · rw [Detector.write, Writer.metadata_run] at hm
    obtain ⟨call, hc, hw⟩ := List.mem_filterMap.mp (by simpa [Writer.empty] using hm)
    cases call with
    | setMetadata key value hidden =>
      obtain rfl := Option.some.inj hw
      exact Or.inr ⟨hd, value, hidden, hc⟩
    | start tag level title description => cases hw
    | detail line => cases hw
    | close => cases hw

lemma runDetector_keeps (c : Context) (r : Report) (d : Detector) :
    (runDetector c r d).value.completed = r.completed ∧
      ∀ key, (runDetector c r d).value.sets key = true → r.sets key = true ∨ d.Sets c key := by
  unfold runDetector
  simp only [Logged.value_bind]
  cases he : (d.analyze c).ending with
  | complete =>
    exact ⟨completed_merge _ _, fun key h => sets_merge_write (by simp [he]) h⟩
  | incomplete reasons =>
    exact ⟨completed_merge _ _, fun key h => sets_merge_write (by simp [he]) h⟩
  | crashed => exact ⟨rfl, fun key h => Or.inl h⟩

lemma runDetectors_keeps (c : Context) (r : Report) (ds : List Detector) :
    (runDetectors c r ds).value.completed = r.completed ∧
      ∀ key, (runDetectors c r ds).value.sets key = true →
        r.sets key = true ∨ ∃ d ∈ ds, d.Sets c key := by
  induction ds generalizing r with
  | nil => exact ⟨rfl, fun key h => Or.inl h⟩
  | cons d ds ih =>
    obtain ⟨hc, hs⟩ := runDetector_keeps c r d
    obtain ⟨hcs, hss⟩ := ih (runDetector c r d).value
    refine ⟨hcs.trans hc, fun key h => ?_⟩
    rcases hss key h with h | ⟨e, he, hk⟩
    · rcases hs key h with h | hk
      · exact Or.inl h
      · exact Or.inr ⟨d, List.mem_cons_self, hk⟩
    · exact Or.inr ⟨e, List.mem_cons_of_mem d he, hk⟩

def closingKeys : List String :=
  ["vector_total_count", "time_total", "time_analyze", "time_loading_vm", "time_finish_analyze",
    "signature_unique_analyze"]

lemma recordSuccess_sameBut (r : Report) : SameBut closingKeys r (recordSuccess o r) := by
  unfold recordSuccess
  dsimp only
  refine SameBut.setMetadata (SameBut.setStatus ?_ _) (by decide) _ _
  iterate 4 refine SameBut.setMetadata ?_ (by decide) _ _
  exact SameBut.refl _ _

lemma total_recordSuccess (r : Report) :
    (recordSuccess o r).metadata.get? "vector_total_count" = some (.int r.findings.length) := by
  unfold recordSuccess
  simp only [metadata_setMetadata, metadata_setStatus]
  rw [Metadata.get?_set_ne (by decide), Metadata.get?_set_ne (by decide),
    Metadata.get?_set_ne (by decide), Metadata.get?_set_ne (by decide), Metadata.get?_set_self,
    totalFindings]

lemma value_analyze (c : Context) (r : Report) : (engine.analyze c o r).value =
    recordSuccess o (runDetectors c (r.setStatus .runningDetectors)
      (engine.catalogue.select engine.options.debugTag)).value := by
  unfold analyze
  dsimp only
  split <;> rfl

lemma finish_analyze (c : Context) (opened : Report) :
    let report := finish o (engine.analyze c o opened).value
    report.status = .success ∧ report.completed = true ∧
      report.sets "signature_unique_analyze" = true ∧
      report.metadata.get? "vector_total_count" = some (.int report.findings.length) ∧
      ∀ key ∈ failureKeys, report.sets key = true → opened.sets key = true ∨
        ∃ d ∈ engine.catalogue.select engine.options.debugTag, d.Sets c key := by
  intro report
  obtain ⟨ran, hran, hr⟩ : ∃ ran, (engine.analyze c o opened).value = recordSuccess o ran ∧
      ∀ key, ran.sets key = true → opened.sets key = true ∨
        ∃ d ∈ engine.catalogue.select engine.options.debugTag, d.Sets c key :=
    ⟨_, value_analyze engine o c opened, (runDetectors_keeps c _ _).2⟩
  have hreport : report = finish o (recordSuccess o ran) := congrArg (finish o) hran
  have hfindings : report.findings = ran.findings := by
    rw [hreport]
    exact (recordSuccess_sameBut o ran).findings
  refine ⟨by rw [hreport]; rfl, by rw [hreport]; rfl, ?_, ?_, ?_⟩
  · rw [hreport]
    exact sets_setMetadata.mpr (Or.inl rfl)
  · rw [hfindings, hreport, finish]
    simp only [metadata_setMetadata, metadata_complete]
    rw [Metadata.get?_set_ne (by decide), total_recordSuccess]
  · intro key hk h
    have hclosing : key ∉ closingKeys :=
      (by decide : ∀ key ∈ failureKeys, key ∉ closingKeys) key hk
    rw [hreport] at h
    rcases sets_setMetadata.mp h with h | h
    · exact (hclosing (by rw [h]; decide)).elim
    · apply hr key
      rw [← (recordSuccess_sameBut o ran).sets_eq hclosing]
      exact h

lemma abandon_keeps (failure : Failure) (r : Report) :
    (abandon failure o r).status = .fail ∧ (abandon failure o r).completed = true ∧
      (abandon failure o r).findings = r.findings ∧
      (abandon failure o r).sets "signature_unique_analyze" = true ∧
      ∀ key ∈ failureKeys, (abandon failure o r).sets key = true := by
  unfold abandon recordFailure
  rcases describe failure with ⟨id, expected, message⟩
  dsimp only
  generalize hd : (if needsDetail failure then _ else r : Report) = detailed
  have hf : detailed.findings = r.findings := by
    rw [← hd]
    split <;> rfl
  refine ⟨rfl, rfl, hf, sets_setMetadata.mpr (Or.inr (sets_setMetadata.mpr (Or.inl rfl))), ?_⟩
  intro key hk
  have hsets : ∀ {r : Report} {status : Status} {key : String},
      ((r.setStatus status).complete).sets key = r.sets key := fun {_ _ _} => rfl
  simp only [failureKeys, List.mem_cons, List.not_mem_nil, or_false] at hk
  simp only [sets_setMetadata, hsets]
  rcases hk with rfl | rfl | rfl | rfl | rfl <;> simp

lemma recordOptions_sameBut (options : ScanOptions) (r : Report) :
    SameBut openingKeys r (recordOptions options r) := by
  unfold recordOptions
  dsimp only
  iterate 3 refine SameBut.setMetadata ?_ (by decide) _ _
  exact SameBut.refl _ _

/-- What holds of the report of a scan: it is complete, it tells of success exactly for a package
that is accepted, and which findings and metadata come with success and with failure. -/
structure Concluded (engine : Engine) (load : Loader) (machine : Machine) (path : String)
    (o : Occasion) (report : Report) : Prop where
  completed : report.completed = true
  ended : report.status = .success ∨ report.status = .fail
  success_iff : report.status = .success ↔ Accepted load machine path
  signed : report.sets "signature_unique_analyze" = true
  failed : report.status = .fail → report.findings = [] ∧
    (∀ key ∈ failureKeys, report.sets key = true) ∧
    ∀ catalogue, scan { engine with catalogue := catalogue } load machine path o =
      engine.scan load machine path o
  succeeded : report.status = .success →
    report.metadata.get? "vector_total_count" = some (.int report.findings.length) ∧
    ∃ package, (load machine path).value.1 = .ok package ∧
      ∀ key ∈ failureKeys, report.sets key = true →
        ∃ d ∈ engine.catalogue.select engine.options.debugTag,
          d.Sets (.ofPackage package engine.exclusions) key

theorem scan_concluded (engine : Engine) (load : Loader) (machine : Machine) (path : String)
    (o : Occasion) :
    Concluded engine load machine path o (engine.scan load machine path o).value.1 := by
  have hoptions := recordOptions_sameBut engine.options .empty
  have hempty : ∀ key ∈ failureKeys, key ∉ openingKeys := by decide
  by_cases h : Accepted load machine path
  · obtain ⟨package, opened, machine', hl, hv, hs⟩ := run_accepted path engine load machine o
      (recordOptions engine.options .empty) h
    have hscan : (engine.scan load machine path o).value.1 =
        finish o (engine.analyze (.ofPackage package engine.exclusions) o opened).value := by
      simp only [scan, Logged.value_bind, hv, Logged.value_pure]
    obtain ⟨hst, hc, hsig, htotal, hkeys⟩ :=
      finish_analyze engine o (.ofPackage package engine.exclusions) opened
    rw [hscan]
    refine ⟨hc, Or.inl hst, ⟨fun _ => h, fun _ => hst⟩, hsig, fun hf => ?_,
      fun _ => ⟨htotal, package, hl, ?_⟩⟩
    · rw [hst] at hf
      cases hf
    · intro key hk hset
      rcases hkeys key hk hset with ho | hd
      · rw [(hoptions.trans hs).sets_eq (hempty key hk)] at ho
        cases ho
      · exact hd
  · obtain ⟨⟨failure, after, machine', hv, hs⟩, hcat⟩ := run_refused path engine load machine o
      (recordOptions engine.options .empty) h
    have hscan : (engine.scan load machine path o).value.1 = abandon failure o after := by
      simp only [scan, Logged.value_bind, hv, Logged.value_pure]
    obtain ⟨hst, hc, hfind, hsig, hkeys⟩ := abandon_keeps o failure after
    have hno : (engine.scan load machine path o).value.1.status ≠ .success := by
      rw [hscan, hst]
      exact nofun
    refine ⟨by rw [hscan, hc], Or.inr (by rw [hscan, hst]),
      ⟨fun hs => (hno hs).elim, fun ha => (h ha).elim⟩, by rw [hscan, hsig],
      fun _ => ⟨?_, ?_, fun catalogue => ?_⟩, fun hs => (hno hs).elim⟩
    · rw [hscan, hfind]
      exact (hoptions.trans hs).findings
    · rw [hscan]
      exact hkeys
    · unfold scan
      rw [hcat catalogue]

end Engine

end ApkAudit
