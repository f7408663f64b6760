import ApkAudit.Proofs.Audit.Composition
import ApkAudit.Proofs.Package.Loading
import ApkAudit.Proofs.Report.WriteLog

/-! What the report of a failed scan tells about the failure.  Of a chain of causes the outermost
known fault counts, and the contexts around it do not change what is told of it. -/

namespace ApkAudit

namespace Fault

def SpeaksForItself (f : Fault) : Prop :=
  ∃ path, f = .packageMissing path ∨ f = .packageNameEmpty path ∨ f = .codeMissing path

def LiesInPackage (f : Fault) : Prop :=
  f.SpeaksForItself ∨ ∃ message, f = .archiveCorrupted message

lemma needsDetail_eq_false_iff (f : Fault) : f.needsDetail = false ↔ f.SpeaksForItself := by
  cases f <;> simp [needsDetail, SpeaksForItself]

lemma isExpected_iff (f : Fault) : f.isExpected = true ↔ f.LiesInPackage := by
  cases f <;> simp [isExpected, LiesInPackage, SpeaksForItself]

end Fault

namespace Failure

def Outermost (failure : Failure) (f : Fault) : Prop :=
  ∃ (texts : List String) (inner : List Cause),
    failure.causes = texts.map Cause.note ++ .fault f :: inner

lemma forall_fault?_iff {causes : List Cause} :
    (∀ c ∈ causes, c.fault? = none) ↔ ∃ texts : List String, causes = texts.map Cause.note := by
  constructor
  · intro h
    induction causes with
    | nil => exact ⟨[], rfl⟩
    | cons c causes ih =>
      obtain ⟨hc, hcs⟩ := List.forall_mem_cons.mp h
      obtain ⟨texts, rfl⟩ := ih hcs
      cases c with
      | fault f => cases hc
      | note text => exact ⟨text :: texts, rfl⟩
  · rintro ⟨texts, rfl⟩
    simp [Cause.fault?]

lemma fault?_eq_some_iff {failure : Failure} {f : Fault} :
    failure.fault? = some f ↔ failure.Outermost f := by
  rw [fault?, List.findSome?_eq_some_iff, Outermost]
  constructor
  · rintro ⟨front, c, inner, hc, hf, hn⟩
    obtain ⟨texts, rfl⟩ := forall_fault?_iff.mp hn
    cases c with
    | note text => cases hf
    | fault g =>
      obtain rfl := Option.some.inj hf
      exact ⟨texts, inner, hc⟩
  · rintro ⟨texts, inner, hc⟩
    exact ⟨_, _, inner, hc, rfl, forall_fault?_iff.mpr ⟨texts, rfl⟩⟩

lemma fault?_eq_none_iff {failure : Failure} :
    failure.fault? = none ↔ ∀ f, ¬ failure.Outermost f := by
  simp only [← fault?_eq_some_iff, Option.eq_none_iff_forall_ne_some, ne_eq]

def withinAll (texts : List String) (failure : Failure) : Failure :=
  texts.foldl (fun inner text => inner.within text) failure

lemma fault?_withinAll (texts : List String) (failure : Failure) :
    (failure.withinAll texts).fault? = failure.fault? := by
  induction texts generalizing failure with
  | nil => rfl
  | cons text texts ih => exact (ih _).trans (fault?_within text failure)

end Failure

namespace Engine

open Report

def failureWrites (failure : Failure) (o : Occasion) : List MetadataWrite :=
  (if needsDetail failure then
    [⟨"analyze_error_detail_traceback",
      .string (String.intercalate "\ncaused by: " failure.messages), true⟩]
  else []) ++
  [⟨"analyze_error_type_expected", .bool (describe failure).2.1, true⟩,
    ⟨"analyze_error_time", .string o.failed, true⟩,
    ⟨"analyze_error_id", .string (describe failure).1, true⟩,
    ⟨"analyze_error_message", .string (describe failure).2.2, true⟩]

lemma recordFailure_eq (failure : Failure) (o : Occasion) (r : Report) :
    recordFailure failure o r =
      ((r.record (failureWrites failure o)).setStatus .fail).complete := by
  unfold recordFailure failureWrites
  dsimp only
  split <;> simp

def sealWrites (r : Report) (o : Occasion) : List MetadataWrite :=
  [⟨"signature_unique_analyze", signature r o.scanSeal "package_name" "pkg", true⟩,
    ⟨"signature_unique_exception", signature r o.failureSeal "analyze_error_id" "err", true⟩]

lemma metadata_abandon (failure : Failure) (o : Occasion) (r : Report) :
    (abandon failure o r).metadata = r.metadata.writeAll
      (failureWrites failure o ++ sealWrites (recordFailure failure o r) o) := by
  have hr : (recordFailure failure o r).metadata =
      r.metadata.writeAll (failureWrites failure o) := by
    rw [recordFailure_eq]
    rfl
  rw [Metadata.writeAll_append, ← hr]
  rfl

lemma nodup_failureWrites (failure : Failure) (o : Occasion) (r : Report) :
    ((failureWrites failure o ++ sealWrites r o).map MetadataWrite.key).Nodup := by
  unfold failureWrites sealWrites
  split <;> simp

lemma get?_abandon {failure : Failure} {o : Occasion} {r : Report} {w : MetadataWrite}
    (hw : w ∈ failureWrites failure o) :
    (abandon failure o r).metadata.get? w.key = some w.value := by
  rw [metadata_abandon]
  exact Metadata.get?_writeAll_of_mem (List.mem_append_left _ hw)
    (nodup_failureWrites failure o _) r.metadata

lemma needsDetail_iff (failure : Failure) :
    needsDetail failure = true ↔ ∀ f, failure.Outermost f → ¬ f.SpeaksForItself := by
  simp only [← Failure.fault?_eq_some_iff, ← Fault.needsDetail_eq_false_iff, needsDetail]
  cases failure.fault? <;> simp

lemma get?_traceback_abandon (failure : Failure) (o : Occasion) {r : Report}
    (h : r.metadata.get? "analyze_error_detail_traceback" = none) :
    (abandon failure o r).metadata.get? "analyze_error_detail_traceback" =
      if needsDetail failure then
        some (.string (String.intercalate "\ncaused by: " failure.messages)) else none := by
  split
  · next hd =>
    apply get?_abandon (w := ⟨"analyze_error_detail_traceback", _, true⟩)
    simp [failureWrites, hd]
  · next hd =>
    rw [metadata_abandon, Metadata.get?_writeAll_of_not_mem, h]
    simp [failureWrites, sealWrites, hd]

/-- What a report tells about a failure: the name, the kind and the message of the outermost known
fault, or else that the failure is unexpected, and the whole chain unless the fault says all. -/
structure TellsOf (failure : Failure) (report : Report) : Prop where
  failed : report.status = .fail
  known : ∀ f, failure.Outermost f →
    report.metadata.get? "analyze_error_id" = some (.string f.id) ∧
    report.metadata.get? "analyze_error_type_expected" = some (.bool f.isExpected) ∧
    report.metadata.get? "analyze_error_message" = some (.string f.message)
  unknown : (∀ f, ¬ failure.Outermost f) →
    report.metadata.get? "analyze_error_id" = some (.string "unexpected_error") ∧
    report.metadata.get? "analyze_error_type_expected" = some (.bool false) ∧
    report.metadata.get? "analyze_error_message" = some (.string failure.outer.message)
  expected_iff : report.metadata.get? "analyze_error_type_expected" = some (.bool true) ↔
    ∃ f, failure.Outermost f ∧ f.LiesInPackage
  traced_iff : report.sets "analyze_error_detail_traceback" = true ↔
    ∀ f, failure.Outermost f → ¬ f.SpeaksForItself
  trace : ∀ value, report.metadata.get? "analyze_error_detail_traceback" = some value →
    value = .string (String.intercalate "\ncaused by: " (failure.causes.map Cause.message))

lemma tellsOf_abandon (failure : Failure) (o : Occasion) {r : Report}
    (h : r.metadata.get? "analyze_error_detail_traceback" = none) :
    TellsOf failure (abandon failure o r) := by
  have hid : (abandon failure o r).metadata.get? "analyze_error_id" =
      some (.string (describe failure).1) :=
    get?_abandon (w := ⟨"analyze_error_id", _, true⟩) (by simp [failureWrites])
  have hexpected : (abandon failure o r).metadata.get? "analyze_error_type_expected" =
      some (.bool (describe failure).2.1) :=
    get?_abandon (w := ⟨"analyze_error_type_expected", _, true⟩) (by simp [failureWrites])
  have hmessage : (abandon failure o r).metadata.get? "analyze_error_message" =
      some (.string (describe failure).2.2) :=
    get?_abandon (w := ⟨"analyze_error_message", _, true⟩) (by simp [failureWrites])
  have htrace := get?_traceback_abandon failure o h
  refine ⟨rfl, fun f hf => ?_, fun hf => ?_, ?_, ?_, fun value hv => ?_⟩
  · rw [hid, hexpected, hmessage, describe, Failure.fault?_eq_some_iff.mpr hf]
    exact ⟨rfl, rfl, rfl⟩
  · rw [hid, hexpected, hmessage, describe, Failure.fault?_eq_none_iff.mpr hf]
    exact ⟨rfl, rfl, rfl⟩
  · rw [hexpected, describe]
    simp only [← Failure.fault?_eq_some_iff, ← Fault.isExpected_iff]
    cases failure.fault? <;> simp
  · rw [sets, htrace, ← needsDetail_iff]
    cases needsDetail failure <;> simp
  · rw [htrace] at hv
    split at hv
    · exact (Option.some.inj hv).symm
    · cases hv

section Scan

variable (engine : Engine) {load : Loader} {machine : Machine} {path : String} (o : Occasion)
  {content : ByteArray} {failure : Failure}

lemma scan_of_loadError (hc : machine.disk.readBytes path = .ok content)
    (hl : (load machine path).value.1 = .error failure) :
    ∃ before, (engine.scan load machine path o).value.1 = abandon failure o before ∧
      SameBut openingKeys .empty before := by
  have hg := Disk.get_of_readBytes hc
  have hf : machine.disk.isFile path = true := by rw [Disk.isFile, hg]; rfl
  have hz : machine.disk.size path = .ok content.size := by rw [Disk.size, hg]; rfl
  have hp : machine.disk.fingerprint path = .ok (.ofBytes content) := by rw [Disk.fingerprint, hc]
  obtain ⟨machine', hv⟩ : ∃ machine', (load machine path).value = (.error failure, machine') :=
    ⟨_, Prod.ext hl rfl⟩
  have hrun : ∀ r, (engine.run load machine path o r).value = (.error failure,
      recordStart content.size o (recordPlace machine.disk path (r.setStatus .loadingPackage)),
      machine') := by
    intro r
    simp only [run, hf, hz, hp, if_true, audit, Logged.value_bind, hv, Logged.value_pure]
  refine ⟨_, by simp only [scan, Logged.value_bind, hrun, Logged.value_pure]; rfl, ?_⟩
  exact ((((recordOptions_sameBut engine.options .empty).setStatus _).trans
    (recordPlace_sameBut path machine.disk _)).trans (recordStart_sameBut o content.size _))

end Scan

lemma tellsOf_scan (engine : Engine) {load : Loader} {machine : Machine} {path : String}
    (o : Occasion) {content : ByteArray} {failure : Failure}
    (hc : machine.disk.readBytes path = .ok content)
    (hl : (load machine path).value.1 = .error failure) :
    TellsOf failure (engine.scan load machine path o).value.1 := by
  obtain ⟨before, hs, hb⟩ := scan_of_loadError engine o hc hl
  rw [hs]
  apply tellsOf_abandon
  exact hb.metadata _ (by decide)

/-- The report of a package that cannot be loaded tells of the failure, and contexts around a known
fault make no difference to what is told of it. -/
theorem scan_tells_loadError (engine : Engine) (load : Loader) (machine : Machine) (path : String)
    (o : Occasion) (content : ByteArray) (failure : Failure)
    (hc : machine.disk.readBytes path = .ok content)
    (hl : (load machine path).value.1 = .error failure) :
    TellsOf failure (engine.scan load machine path o).value.1 ∧
      ∀ (texts : List String) (loadWithin : Loader),
        (loadWithin machine path).value.1 = .error (failure.withinAll texts) →
        (∃ f, failure.Outermost f) →
        ∀ key ∈ ["analyze_error_id", "analyze_error_type_expected", "analyze_error_message"],
          (engine.scan loadWithin machine path o).value.1.metadata.get? key =
            (engine.scan load machine path o).value.1.metadata.get? key := by
  have htells := tellsOf_scan engine o hc hl
  refine ⟨htells, ?_⟩
  rintro texts loadWithin hw ⟨f, hf⟩ key hk
  have hf' : (failure.withinAll texts).Outermost f := by
    rw [← Failure.fault?_eq_some_iff, Failure.fault?_withinAll]
    exact Failure.fault?_eq_some_iff.mpr hf
  obtain ⟨hid, hexpected, hmessage⟩ := htells.known f hf
  obtain ⟨hid', hexpected', hmessage'⟩ := (tellsOf_scan engine o hc hw).known f hf'
  simp only [List.mem_cons, List.not_mem_nil, or_false] at hk
  rcases hk with rfl | rfl | rfl
  · rw [hid, hid']
  · rw [hexpected, hexpected']
  · rw [hmessage, hmessage']

def wrapped : Failure :=
  ⟨.note "could not load", [.note "while reading", .fault (.archiveCorrupted "bad header")]⟩

def wrappedLoad : Loader :=
  fun machine _ => pure (.error wrapped, machine)

theorem scan_tells_loadError_wrapped :
    plainMachine.disk.readBytes "app.apk" = .ok .empty ∧
      wrapped.Outermost (.archiveCorrupted "bad header") ∧
      TellsOf wrapped (scan { catalogue := ⟨[]⟩, exclusions := {} } wrappedLoad plainMachine
        "app.apk" still).value.1 := by
  refine ⟨rfl, ⟨["could not load", "while reading"], _, rfl⟩, ?_⟩
  exact (scan_tells_loadError { catalogue := ⟨[]⟩, exclusions := {} } wrappedLoad plainMachine
    "app.apk" still .empty wrapped rfl rfl).1

end Engine

end ApkAudit
