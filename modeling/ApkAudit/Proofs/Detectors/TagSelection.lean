import ApkAudit.Proofs.Detectors.Tags

/-! A scan that is asked for one tag reports what a full scan reports under this tag: every detector
declares the tags of its findings, so none that is left out has anything to say. -/

namespace ApkAudit

def tagged (tag : String) (findings : List Finding) : List Finding :=
  findings.filter fun f => f.tag = tag

lemma Detector.contribution_subset (d : Detector) (c : Context) :
    d.contribution c ⊆ (d.write c).value.findings := by
  rw [contribution]
  split
  · exact List.nil_subset _
  · exact List.Subset.refl _

lemma tagged_eq_nil {tag : String} {findings : List Finding} (h : ∀ f ∈ findings, f.tag ≠ tag) :
    tagged tag findings = [] := by
  apply List.filter_eq_nil_iff.mpr
  intro f hf
  simpa using h f hf

lemma tagged_flatMap_declared (tag : String) {ds : List Detector} {found : Detector → List Finding}
    (h : ∀ d ∈ ds, ∀ f ∈ found d, f.tag ∈ d.tags) :
    tagged tag ((ds.filter fun d => d.tags.contains tag).flatMap found) =
      tagged tag (ds.flatMap found) := by
  induction ds with
  | nil => rfl
  | cons d ds ih =>
    have hrest := ih fun d' hd' => h d' (List.mem_cons_of_mem d hd')
    have happ : ∀ fs gs, tagged tag (fs ++ gs) = tagged tag fs ++ tagged tag gs :=
      fun fs gs => List.filter_append fs gs
    rw [List.flatMap_cons, happ, ← hrest]
    by_cases ht : tag ∈ d.tags
    · rw [List.filter_cons_of_pos (by simpa using ht), List.flatMap_cons, happ]
    · have hnone : tagged tag (found d) = [] := by
        apply tagged_eq_nil
        rintro f hf rfl
        exact ht (h d List.mem_cons_self f hf)
      rw [List.filter_cons_of_neg (by simpa using ht), hnone, List.nil_append]

namespace Engine

open Detectors

lemma mem_made_of_mem_shipped {exclusions : Exclusions} {options : ScanOptions} {d : Detector}
    (hd : d ∈ (ofFactories all exclusions options).catalogue.detectors) :
    d ∈ Catalogue.made all :=
  (stablySorted_ofFactories all exclusions options).perm.mem_iff.mp hd

variable (exclusions : Exclusions) (options : ScanOptions) (load : Loader) (machine : Machine)
  (path : String)

lemma tagged_scan (tag : String) (o o' : Occasion) :
    tagged tag ((ofFactories all exclusions { options with debugTag := some tag }).scan load machine
        path o).value.1.findings =
      tagged tag ((ofFactories all exclusions { options with debugTag := none }).scan load machine
        path o').value.1.findings := by
  by_cases ha : Accepted load machine path
  · obtain ⟨package, hl, hnarrow⟩ := findings_scan
      (ofFactories all exclusions { options with debugTag := some tag }) load machine path o ha
    obtain ⟨package', hl', hwhole⟩ := findings_scan
      (ofFactories all exclusions { options with debugTag := none }) load machine path o' ha
    obtain rfl : package' = package := Except.ok.inj (hl'.symm.trans hl)
    have hall : ∀ catalogue : Catalogue, catalogue.select none = catalogue.detectors := by
      intro catalogue
      simp [Catalogue.select_eq_filter]
    rw [Catalogue.select_eq_filter] at hnarrow
    rw [hnarrow, hwhole.trans (congrArg (List.flatMap _) (hall _))]
    apply tagged_flatMap_declared
    intro d hd f hf
    exact tag_write (mem_made_of_mem_shipped hd) _ f (d.contribution_subset _ hf)
  · rw [findings_scan_refused _ load machine path o ha,
      findings_scan_refused _ load machine path o' ha]

lemma findings_scan_undeclared {engine : Engine} {tag : String} (o : Occasion)
    (hoption : engine.options.debugTag = some tag)
    (h : ∀ d ∈ engine.catalogue.detectors, tag ∉ d.tags) :
    (engine.scan load machine path o).value.1.findings = [] := by
  by_cases ha : Accepted load machine path
  · obtain ⟨package, -, hf⟩ := findings_scan engine load machine path o ha
    have hselect : engine.catalogue.select engine.options.debugTag = [] := by
      rw [hoption, Catalogue.select_eq_filter]
      apply List.filter_eq_nil_iff.mpr
      intro d hd
      simpa using h d hd
    rw [hf, hselect, List.flatMap_nil]
  · exact findings_scan_refused engine load machine path o ha

/-- What asking the shipped detectors for one tag does to a scan: it keeps the findings with this
tag, since every finding has a tag that its detector declares, and a tag that none of them declares
gives a scan that succeeds and finds nothing. -/
theorem scan_narrowed (exclusions : Exclusions) (options : ScanOptions) (load : Loader)
    (machine : Machine) (path tag : String) (o o' : Occasion) :
    let narrow := ofFactories all exclusions { options with debugTag := some tag }
    let whole := ofFactories all exclusions { options with debugTag := none }
    tagged tag (narrow.scan load machine path o).value.1.findings =
        tagged tag (whole.scan load machine path o').value.1.findings ∧
      (∀ d ∈ whole.catalogue.detectors, ∀ (c : Context), ∀ f ∈ (d.write c).value.findings,
        f.tag ∈ d.tags) ∧
      ((∀ d ∈ whole.catalogue.detectors, tag ∉ d.tags) →
        (narrow.scan load machine path o).value.1.findings = [] ∧
        (Accepted load machine path →
          (narrow.scan load machine path o).value.1.status = .success)) := by
  intro narrow whole
  refine ⟨tagged_scan exclusions options load machine path tag o o', ?_, fun h => ⟨?_, ?_⟩⟩
  · intro d hd
    exact tag_write (mem_made_of_mem_shipped hd)
  · exact findings_scan_undeclared load machine path o rfl h
  · exact (status_scan_eq_success_iff narrow load machine path o).mpr

theorem scan_narrowed_unknown_tag :
    let whole := ofFactories all {} { ({} : ScanOptions) with debugTag := none }
    let narrow := ofFactories all {} { ({} : ScanOptions) with debugTag := some "UNKNOWN" }
    (∀ d ∈ whole.catalogue.detectors, "UNKNOWN" ∉ d.tags) ∧
      (narrow.scan plainLoad plainMachine "app.apk" still).value.1.findings = [] ∧
      (narrow.scan plainLoad plainMachine "app.apk" still).value.1.status = .success := by
  intro whole narrow
  have htags : ∀ d ∈ whole.catalogue.detectors, "UNKNOWN" ∉ d.tags := by
    intro d hd
    rcases cases_of_mem_made (mem_made_of_mem_shipped hd) with rfl | rfl | rfl <;> decide
  obtain ⟨hfindings, hstatus⟩ :=
    (scan_narrowed {} {} plainLoad plainMachine "app.apk" "UNKNOWN" still still).2.2 htags
  exact ⟨htags, hfindings, hstatus accepted_plain⟩

end Engine

end ApkAudit
