import ApkAudit.Detectors.All
import ApkAudit.Proofs.Audit.Composition
import ApkAudit.Proofs.Report.Written

/-! What the shipped detectors add to a scan, and the tags of their findings. -/

namespace ApkAudit.Detectors

section Written

variable {d : Detector} {c : Context} {findings : List Finding} {problems : List String}

lemma write_of_findings (h : d.analyze c = .ofFindings findings problems) :
    (d.write c).value.findings = findings := by
  rw [Detector.write, h]
  exact Writer.findings_run_flatMap .empty findings

lemma contribution_of_findings (h : d.analyze c = .ofFindings findings problems) :
    d.contribution c = findings := by
  have hending : (d.analyze c).ending ≠ .crashed := by
    rw [h, Analysis.ofFindings]
    dsimp only
    split <;> exact nofun
  rw [Detector.contribution, if_neg hending, write_of_findings h]

end Written

lemma made_all : Catalogue.made all =
    [Broadcast.detector, ApplicationFlags.detector, PackageQueries.detector] := rfl

lemma cases_of_mem_made {d : Detector} (hd : d ∈ Catalogue.made all) :
    d = Broadcast.detector ∨ d = ApplicationFlags.detector ∨ d = PackageQueries.detector := by
  simpa [made_all] using hd

namespace Broadcast

lemma tag_manifestFindings (manifest : Element) :
    ∀ f ∈ manifestFindings manifest, f.tag ∈ listeners.map Listener.tag := by
  intro f hf
  obtain ⟨⟨receiver, action⟩, -, ha⟩ := List.mem_filterMap.mp hf
  obtain ⟨name, -, ha⟩ := Option.bind_eq_some_iff.mp ha
  obtain ⟨l, hl, ha⟩ := Option.bind_eq_some_iff.mp ha
  obtain rfl := Option.some.inj ha
  exact List.mem_map.mpr ⟨l, List.mem_of_find?_eq_some hl, rfl⟩

lemma tag_dynamicFindings (c : Context) :
    ∀ f ∈ listeners.filterMap (dynamicFinding? c), f.tag ∈ listeners.map Listener.dynamicTag := by
  intro f hf
  obtain ⟨l, hl, hd⟩ := List.mem_filterMap.mp hf
  unfold dynamicFinding? at hd
  dsimp only at hd
  split at hd
  · cases hd
  · obtain rfl := Option.some.inj hd
    exact List.mem_map.mpr ⟨l, hl, rfl⟩

lemma tag_findings (c : Context) : ∀ f ∈ findings c, f.tag ∈ tags := by
  intro f hf
  rcases List.mem_append.mp hf with hf | hf
  · exact (by decide : ∀ tag ∈ listeners.map Listener.tag, tag ∈ tags) f.tag
      (tag_manifestFindings c.manifest f hf)
  · exact (by decide : ∀ tag ∈ listeners.map Listener.dynamicTag, tag ∈ tags) f.tag
      (tag_dynamicFindings c f hf)

end Broadcast

namespace ApplicationFlags

lemma tag_findings (manifest : Element) : ∀ f ∈ findings manifest, f.tag ∈ tags := by
  intro f hf
  obtain ⟨⟨application, flag⟩, hc, ha⟩ := List.mem_filterMap.mp hf
  obtain ⟨other, -, hp⟩ := List.mem_flatMap.mp hc
  obtain ⟨flag', hflag, hpair⟩ := List.mem_map.mp hp
  obtain rfl : flag' = flag := congrArg Prod.snd hpair
  dsimp only at ha
  split at ha
  · obtain rfl := Option.some.inj ha
    exact (by decide : ∀ flag ∈ flags.map (·.finding.tag), flag ∈ tags) _
      (List.mem_map.mpr ⟨flag', hflag, rfl⟩)
  · cases ha

end ApplicationFlags

namespace PackageQueries

def callTags : List String :=
  ["QUERY_UNKNOWN_PACKAGES", "QUERY_INTENT", "QUERY_PACKAGE", "QUERY_PERMISSION"]

lemma tag_declaredFindings (manifest : Element) (sites : List CallSite) :
    ∀ f ∈ declaredFindings manifest sites, f.tag ∈ callTags := by
  intro f hf
  unfold declaredFindings at hf
  dsimp only at hf
  rcases List.mem_append.mp hf with hf | hf
  · split at hf
    · cases hf
    · obtain rfl := List.mem_singleton.mp hf
      simp [queryIntent, callTags]
  · obtain rfl := List.mem_singleton.mp hf
    split <;> simp [queryPermission, queryPackage, callTags]

lemma tag_callFindings (c : Context) (sites : List CallSite) :
    ∀ f ∈ (if isFiltered c then declaredFindings c.manifest sites else [queryUnknown sites]),
      f.tag ∈ callTags := by
  intro f hf
  split at hf
  · exact tag_declaredFindings c.manifest sites f hf
  · obtain rfl := List.mem_singleton.mp hf
    simp [queryUnknown, callTags]

lemma tag_findings (c : Context) : ∀ f ∈ findings c, f.tag ∈ tags := by
  intro f hf
  rcases List.mem_append.mp hf with hf | hf
  · split at hf
    · obtain rfl := List.mem_singleton.mp hf
      simp [queryAll, tags]
    · cases hf
  · split at hf
    · cases hf
    · exact (by decide : ∀ tag ∈ callTags, tag ∈ tags) f.tag (tag_callFindings c _ f hf)

end PackageQueries

lemma tag_write {d : Detector} (hd : d ∈ Catalogue.made all) (c : Context) :
    ∀ f ∈ (d.write c).value.findings, f.tag ∈ d.tags := by
  rcases cases_of_mem_made hd with rfl | rfl | rfl
  · rw [write_of_findings rfl]
    exact Broadcast.tag_findings c
  · rw [write_of_findings rfl]
    exact ApplicationFlags.tag_findings c.manifest
  · rw [write_of_findings rfl]
    exact PackageQueries.tag_findings c

end ApkAudit.Detectors
