import ApkAudit.Proofs.Audit.OwnMetadata

/-! What a package must have to be analyzed, and what its check leaves in the report: nothing where
the name is missing, what the manifest says where the code is missing, and that with the levels and
digests otherwise.  The report comes from the one before by a log of writes. -/

namespace ApkAudit

namespace Context

open Report

def manifestKeys : List String :=
  ["platform", "package_name", "package_version_name", "package_version_code"]

def fileKeys : List String :=
  ["minSdk", "targetSdk", "file_md5", "file_sha1", "file_sha256", "file_sha512"]

section Writes

variable (package : Package) (fingerprint : Fingerprint)

lemma keys_manifestWrites :
    ((manifestWrites package).map MetadataWrite.key).Sublist manifestKeys := by
  unfold manifestWrites
  cases package.versionName.filter fun v => !Text.isBlankText v <;>
    cases package.versionCode.filter fun v => !Text.isBlankText v <;>
    simp [manifestKeys]

lemma keys_fileWrites : (fileWrites package fingerprint).map MetadataWrite.key = fileKeys := rfl

lemma nodup_writes :
    ((manifestWrites package ++ fileWrites package fingerprint).map MetadataWrite.key).Nodup := by
  rw [List.map_append, keys_fileWrites]
  have hs := (keys_manifestWrites package).append_right fileKeys
  exact hs.nodup (by decide)

end Writes

section Build

variable (package : Package) (path : String) (fingerprint : Fingerprint) (exclusions : Exclusions)
  (r : Report)

lemma build_nameless (h : Text.trim package.packageName = "") :
    (build package path fingerprint exclusions r).value =
      (.error (.ofFault (.packageNameEmpty path)), r) := by
  have hb : Text.isBlankText (Text.trim package.packageName) = true := by rw [h]; rfl
  unfold build
  dsimp only
  rw [if_pos hb]
  rfl

lemma build_codeless (hn : Text.trim package.packageName ≠ "") (hc : package.codeUnits = 0) :
    (build package path fingerprint exclusions r).value =
      (.error (.ofFault (.codeMissing path)), r.record (manifestWrites package)) := by
  have hb : ¬ Text.isBlankText (Text.trim package.packageName) = true :=
    fun hb => hn (Text.isBlankText_trim hb)
  unfold build
  dsimp only
  rw [if_neg hb, if_pos hc, recordPackage_eq]
  rfl

lemma of_build_ok {c : Context}
    (h : (build package path fingerprint exclusions r).value.1 = .ok c) :
    Text.trim package.packageName ≠ "" ∧ package.codeUnits ≠ 0 ∧
      c = ofPackage package exclusions := by
  by_cases hn : Text.trim package.packageName = ""
  · rw [build_nameless package path fingerprint exclusions r hn] at h
    cases h
  · by_cases hc : package.codeUnits = 0
    · rw [build_codeless package path fingerprint exclusions r hn hc] at h
      cases h
    · rw [Engine.build_accepted package path fingerprint exclusions r hn hc] at h
      exact ⟨hn, hc, (Except.ok.inj h).symm⟩

lemma get?_manifestWrites (hn : Text.trim package.packageName ≠ "") {w : MetadataWrite}
    (hw : w ∈ manifestWrites package) :
    (build package path fingerprint exclusions r).value.2.metadata.get? w.key = some w.value := by
  have hnodup := nodup_writes package fingerprint
  by_cases hc : package.codeUnits = 0
  · rw [build_codeless package path fingerprint exclusions r hn hc]
    rw [List.map_append] at hnodup
    exact Metadata.get?_writeAll_of_mem hw (List.nodup_append.mp hnodup).1 r.metadata
  · rw [Engine.build_accepted package path fingerprint exclusions r hn hc, described_eq]
    exact Metadata.get?_writeAll_of_mem (List.mem_append_left _ hw) hnodup r.metadata

lemma get?_fileWrites (hn : Text.trim package.packageName ≠ "") (hc : package.codeUnits ≠ 0)
    {w : MetadataWrite} (hw : w ∈ fileWrites package fingerprint) :
    (build package path fingerprint exclusions r).value.2.metadata.get? w.key = some w.value := by
  rw [Engine.build_accepted package path fingerprint exclusions r hn hc, described_eq]
  exact Metadata.get?_writeAll_of_mem (List.mem_append_right _ hw)
    (nodup_writes package fingerprint) r.metadata

lemma writesWithin_build : WritesWithin (manifestKeys ++ fileKeys) r
    (build package path fingerprint exclusions r).value.2 := by
  have hkeys := keys_manifestWrites package
  by_cases hn : Text.trim package.packageName = ""
  · rw [build_nameless package path fingerprint exclusions r hn]
    have hnone : (([] : List MetadataWrite).map MetadataWrite.key).Sublist
        (manifestKeys ++ fileKeys) :=
      List.nil_sublist _
    exact writesWithin_record hnone r
  · by_cases hc : package.codeUnits = 0
    · rw [build_codeless package path fingerprint exclusions r hn hc]
      exact writesWithin_record (hkeys.trans (List.sublist_append_left _ _)) r
    · rw [Engine.build_accepted package path fingerprint exclusions r hn hc, described_eq]
      apply writesWithin_record
      rw [List.map_append, keys_fileWrites]
      exact hkeys.append_right fileKeys

structure Checks (outcome : Except Failure Context) (after : Report) : Prop where
  passes_iff : (∃ c, outcome = .ok c) ↔
    Text.trim package.packageName ≠ "" ∧ package.codeUnits ≠ 0
  nameless : Text.trim package.packageName = "" →
    outcome = .error (.ofFault (.packageNameEmpty path)) ∧ after = r
  codeless : Text.trim package.packageName ≠ "" → package.codeUnits = 0 →
    outcome = .error (.ofFault (.codeMissing path)) ∧ WritesWithin manifestKeys r after
  passed : ∀ c, outcome = .ok c →
    c = ofPackage package exclusions ∧
    after.metadata.get? "package_name" = some (.string (Text.trim package.packageName)) ∧
    after.metadata.get? "minSdk" = some (.int c.minSdk) ∧
    after.metadata.get? "targetSdk" = some (.int c.targetSdk) ∧
    after.metadata.get? "file_md5" = some (.string fingerprint.md5) ∧
    after.metadata.get? "file_sha1" = some (.string fingerprint.sha1) ∧
    after.metadata.get? "file_sha256" = some (.string fingerprint.sha256) ∧
    after.metadata.get? "file_sha512" = some (.string fingerprint.sha512)
  within : WritesWithin (manifestKeys ++ fileKeys) r after

theorem build_checks : Checks package path fingerprint exclusions r
    (build package path fingerprint exclusions r).value.1
    (build package path fingerprint exclusions r).value.2 := by
  refine ⟨⟨?_, ?_⟩, fun hn => ?_, fun hn hc => ?_, fun c hok => ?_, ?_⟩
  · rintro ⟨c, hok⟩
    obtain ⟨hn, hc, -⟩ := of_build_ok package path fingerprint exclusions r hok
    exact ⟨hn, hc⟩
  · rintro ⟨hn, hc⟩
    rw [Engine.build_accepted package path fingerprint exclusions r hn hc]
    exact ⟨_, rfl⟩
  · rw [build_nameless package path fingerprint exclusions r hn]
    exact ⟨rfl, rfl⟩
  · rw [build_codeless package path fingerprint exclusions r hn hc]
    exact ⟨rfl, writesWithin_record (keys_manifestWrites package) r⟩
  · obtain ⟨hn, hc, rfl⟩ := of_build_ok package path fingerprint exclusions r hok
    have hname := get?_manifestWrites package path fingerprint exclusions r hn
      (w := ⟨"package_name", .string (Text.trim package.packageName), false⟩)
      (by simp [manifestWrites])
    have hfile := fun w => get?_fileWrites package path fingerprint exclusions r hn hc (w := w)
    simp only [fileWrites, List.forall_mem_cons] at hfile
    obtain ⟨hmin, htarget, hmd5, hsha1, hsha256, hsha512, -⟩ := hfile
    exact ⟨rfl, hname, hmin, htarget, hmd5, hsha1, hsha256, hsha512⟩
  · exact writesWithin_build package path fingerprint exclusions r

end Build

end Context

end ApkAudit
