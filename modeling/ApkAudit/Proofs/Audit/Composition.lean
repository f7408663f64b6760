import ApkAudit.Proofs.Audit.ScanOutcome

/-! The findings of a scan are those of its detectors, one detector after the other.  What a
detector adds depends on the package only, and one that crashes leaves no trace in the report. -/

namespace ApkAudit

/-- What a detector adds to a scan: all that it writes alone on a new writer, or nothing if it
crashes. -/
def Detector.contribution (d : Detector) (c : Context) : List Finding :=
  if (d.analyze c).ending = .crashed then [] else (d.write c).value.findings

namespace Catalogue

def made (factories : List Factory) : List Detector :=
  factories.filterMap Except.toOption

lemma value_load (i : Nat) (factories : List Factory) :
    (load i factories).value = made factories := by
  induction factories generalizing i with
  | nil => rfl
  | cons factory rest ih =>
    cases factory with
    | error reason => exact ih (i + 1)
    | ok detector => exact congrArg (detector :: ·) (ih (i + 1))

/-- One list of detectors is another one put in the order of names.  Where names are equal the order
stays. -/
structure StablySorted (before after : List Detector) : Prop where
  perm : after.Perm before
  ordered : after.Pairwise fun a b => a.name ≤ b.name
  stable : ∀ name, after.filter (·.name = name) = before.filter (·.name = name)

lemma stablySorted_mergeSort (detectors : List Detector) :
    StablySorted detectors (detectors.mergeSort fun a b => a.name ≤ b.name) := by
  have htrans : ∀ a b c : Detector, decide (a.name ≤ b.name) = true →
      decide (b.name ≤ c.name) = true → decide (a.name ≤ c.name) = true := by
    intro a b c hab hbc
    exact decide_eq_true (String.le_trans (of_decide_eq_true hab) (of_decide_eq_true hbc))
  have htotal : ∀ a b : Detector,
      (decide (a.name ≤ b.name) || decide (b.name ≤ a.name)) = true := by
    intro a b
    simpa using String.le_total a.name b.name
  have hperm := List.mergeSort_perm detectors fun a b => decide (a.name ≤ b.name)
  refine ⟨hperm, ?_, fun name => ?_⟩
  · exact (List.pairwise_mergeSort htrans htotal detectors).imp of_decide_eq_true
  · -- those of one name are a sorted part of the list, which sorting keeps in one piece
    have hsame : (detectors.filter (·.name = name)).Pairwise
        fun a b => decide (a.name ≤ b.name) = true := by
      refine List.pairwise_of_forall_mem_list fun a ha b hb => ?_
      have hna : a.name = name := by simpa using (List.mem_filter.mp ha).2
      have hnb : b.name = name := by simpa using (List.mem_filter.mp hb).2
      have hab : a.name = b.name := hna.trans hnb.symm
      exact decide_eq_true (hab ▸ String.le_refl a.name)
    have hsub := (List.sublist_mergeSort htrans htotal hsame List.filter_sublist).filter
      (·.name = name)
    rw [List.filter_filter] at hsub
    simp only [Bool.and_self] at hsub
    exact (hsub.eq_of_length (hperm.filter _).length_eq.symm).symm

lemma select_eq_filter (catalogue : Catalogue) (tag : Option String) :
    catalogue.select tag =
      catalogue.detectors.filter fun d => tag.all fun tag => d.tags.contains tag := by
  cases tag <;> rfl

end Catalogue

namespace Engine

open Report

lemma findings_runDetector (c : Context) (r : Report) (d : Detector) :
    (runDetector c r d).value.findings = r.findings ++ d.contribution c := by
  unfold runDetector Detector.contribution
  simp only [Logged.value_bind]
  cases (d.analyze c).ending with
  | complete => simp
  | incomplete reasons => simp
  | crashed => simp

lemma findings_runDetectors (c : Context) (r : Report) (ds : List Detector) :
    (runDetectors c r ds).value.findings = r.findings ++ ds.flatMap (·.contribution c) := by
  induction ds generalizing r with
  | nil => simp [runDetectors]
  | cons d ds ih =>
    rw [runDetectors, Logged.value_bind, ih, findings_runDetector, List.flatMap_cons,
      List.append_assoc]

def steady (c : Context) (ds : List Detector) : List Detector :=
  ds.filter fun d => (d.analyze c).ending ≠ .crashed

lemma runDetector_crashed {c : Context} {d : Detector} (h : (d.analyze c).ending = .crashed)
    (r : Report) : (runDetector c r d).value = r := by
  simp [runDetector, h]

lemma runDetectors_steady (c : Context) (r : Report) (ds : List Detector) :
    (runDetectors c r (steady c ds)).value = (runDetectors c r ds).value := by
  induction ds generalizing r with
  | nil => rfl
  | cons d ds ih =>
    by_cases hd : (d.analyze c).ending = .crashed
    · have hs : steady c (d :: ds) = steady c ds := by simp [steady, hd]
      rw [hs, ih, runDetectors, Logged.value_bind, runDetector_crashed hd]
    · have hs : steady c (d :: ds) = d :: steady c ds := by simp [steady, hd]
      rw [hs, runDetectors, runDetectors, Logged.value_bind, Logged.value_bind, ih]

variable (engine : Engine) (load : Loader) (machine : Machine) (path : String) (o : Occasion)

lemma scan_opened (h : Accepted load machine path) :
    ∃ package bytes fingerprint, (load machine path).value.1 = .ok package ∧
      ∀ catalogue : Catalogue,
        (scan { engine with catalogue := catalogue } load machine path o).value.1 =
          finish o (recordSuccess o (runDetectors (.ofPackage package engine.exclusions)
            ((opening package path fingerprint o machine.disk bytes
              (recordOptions engine.options .empty)).setStatus .runningDetectors)
            (catalogue.select engine.options.debugTag)).value) := by
  obtain ⟨package, bytes, fingerprint, machine', hl, hv⟩ := run_opened path engine load machine o
    (recordOptions engine.options .empty) h
  refine ⟨package, bytes, fingerprint, hl, fun catalogue => ?_⟩
  simp only [scan, Logged.value_bind, hv catalogue, Logged.value_pure, value_analyze]

lemma scan_accepted (h : Accepted load machine path) :
    ∃ (package : Package) (opened : Report), (load machine path).value.1 = .ok package ∧
      opened.findings = [] ∧ ∀ catalogue : Catalogue,
        (scan { engine with catalogue := catalogue } load machine path o).value.1 =
          finish o (recordSuccess o (runDetectors (.ofPackage package engine.exclusions) opened
            (catalogue.select engine.options.debugTag)).value) := by
  obtain ⟨package, bytes, fingerprint, hl, hs⟩ := scan_opened engine load machine path o h
  refine ⟨package, _, hl, ?_, hs⟩
  exact ((recordOptions_sameBut engine.options .empty).trans
    (opening_sameBut package path fingerprint o machine.disk bytes _)).findings

lemma findings_finish (r : Report) : (finish o (recordSuccess o r)).findings = r.findings :=
  (recordSuccess_sameBut o r).findings

lemma findings_scan (h : Accepted load machine path) :
    ∃ package, (load machine path).value.1 = .ok package ∧
      (engine.scan load machine path o).value.1.findings =
        (engine.catalogue.select engine.options.debugTag).flatMap
          (·.contribution (.ofPackage package engine.exclusions)) := by
  obtain ⟨package, opened, hl, hf, hs⟩ := scan_accepted engine load machine path o h
  refine ⟨package, hl, ?_⟩
  have hscan := congrArg Report.findings (hs engine.catalogue)
  rw [findings_finish, findings_runDetectors, hf, List.nil_append] at hscan
  exact hscan

lemma scan_refused (h : ¬ Accepted load machine path) :
    ∃ failure after, (engine.scan load machine path o).value.1 = abandon failure o after ∧
      after.findings = [] := by
  obtain ⟨⟨failure, after, machine', hv, hs⟩, -⟩ := run_refused path engine load machine o
    (recordOptions engine.options .empty) h
  refine ⟨failure, after, ?_, ?_⟩
  · simp only [scan, Logged.value_bind, hv, Logged.value_pure]
  · exact ((recordOptions_sameBut engine.options .empty).trans hs).findings

lemma findings_scan_refused (h : ¬ Accepted load machine path) :
    (engine.scan load machine path o).value.1.findings = [] := by
  obtain ⟨failure, after, hscan, hf⟩ := scan_refused engine load machine path o h
  rw [hscan, (abandon_keeps o failure after).2.2.1, hf]

lemma status_scan_eq_success_iff :
    (engine.scan load machine path o).value.1.status = .success ↔ Accepted load machine path := by
  constructor
  · intro hs
    by_contra h
    obtain ⟨failure, after, hscan, -⟩ := scan_refused engine load machine path o h
    rw [hscan, (abandon_keeps o failure after).1] at hs
    cases hs
  · intro h
    obtain ⟨package, opened, -, -, hscan⟩ := scan_accepted engine load machine path o h
    exact congrArg Report.status (hscan engine.catalogue)

lemma select_steady (catalogue : Catalogue) (tag : Option String) (c : Context) :
    Catalogue.select ⟨steady c catalogue.detectors⟩ tag = steady c (catalogue.select tag) := by
  simp only [Catalogue.select_eq_filter, steady, List.filter_filter, Bool.and_comm]

def ofFactories (factories : List Factory) (exclusions : Exclusions) (options : ScanOptions) :
    Engine where
  catalogue := (Catalogue.ofFactories factories).value
  exclusions := exclusions
  options := options

lemma stablySorted_ofFactories (factories : List Factory) (exclusions : Exclusions)
    (options : ScanOptions) : Catalogue.StablySorted (Catalogue.made factories)
      (ofFactories factories exclusions options).catalogue.detectors := by
  have hs := Catalogue.stablySorted_mergeSort (Catalogue.load 0 factories).value
  rw [Catalogue.value_load] at hs
  simpa only [ofFactories, Catalogue.ofFactories, Logged.value_bind, Logged.value_pure,
    Catalogue.value_load] using hs

/-- How the report of a scan comes from what its detectors do alone, each in the same context. -/
structure Composed (factories : List Factory) (engine : Engine) (c : Context)
    (reportWith : Catalogue → Report) : Prop where
  sorted : Catalogue.StablySorted (Catalogue.made factories) engine.catalogue.detectors
  findings : (reportWith engine.catalogue).findings =
    (engine.catalogue.detectors.filter fun d =>
      engine.options.debugTag.all fun tag => d.tags.contains tag).flatMap (·.contribution c)
  traceless : reportWith ⟨steady c engine.catalogue.detectors⟩ = reportWith engine.catalogue

theorem scan_composed (factories : List Factory) (exclusions : Exclusions) (options : ScanOptions)
    (load : Loader) (machine : Machine) (path : String) (o : Occasion) (package : Package)
    (h : Accepted load machine path) (hl : (load machine path).value.1 = .ok package) :
    Composed factories (ofFactories factories exclusions options) (.ofPackage package exclusions)
      fun catalogue =>
        (scan ⟨catalogue, exclusions, options⟩ load machine path o).value.1 := by
  obtain ⟨package', opened, hl', hf, hs⟩ :=
    scan_accepted (ofFactories factories exclusions options) load machine path o h
  obtain rfl : package' = package := Except.ok.inj (hl'.symm.trans hl)
  refine ⟨stablySorted_ofFactories factories exclusions options, ?_, ?_⟩
  · refine (congrArg Report.findings (hs _)).trans ?_
    rw [findings_finish, findings_runDetectors, hf, List.nil_append]
    rw [Catalogue.select_eq_filter]
    rfl
  · refine (hs _).trans (Eq.trans ?_ (hs _).symm)
    rw [select_steady, ofFactories, runDetectors_steady]

def shaky : Detector where
  name := "shaky"
  tags := ["SHARED"]
  description := ""
  analyze _ := ⟨[.start "SHARED" .info "" "", .setMetadata "package_name" .null true], .crashed⟩

def partly : Detector where
  name := "partly"
  tags := ["SHARED", "PARTLY"]
  description := ""
  analyze _ := ⟨[.start "PARTLY" .notice "" "", .detail "kept"], .incomplete ["one"]⟩

def still : Occasion where
  started := ""
  finished := ""
  failed := ""
  total := .ofRatio false 0 1
  analysis := .ofRatio false 0 1
  loading := .ofRatio false 0 1
  scanSeal := ⟨"", 0⟩
  failureSeal := ⟨"", 0⟩

def loadOf (package : Package) : Loader :=
  fun machine _ => pure (.ok package, machine)

def plainLoad : Loader :=
  loadOf { packageName := "com.example" }

def plainMachine : Machine where
  disk := { root := .folder true [("work", .folder true [("app.apk", .file .empty)])] }

lemma accepted_plain : Accepted plainLoad plainMachine "app.apk" := by
  refine ⟨?_, ⟨0, rfl⟩, ⟨.empty, rfl⟩, _, rfl, ?_, ?_⟩
  · decide +kernel
  · decide +kernel
  · decide

theorem scan_composed_shaky :
    Composed [.ok shaky, .error "missing resources", .ok partly]
      (ofFactories [.ok shaky, .error "missing resources", .ok partly] {} { debugTag := "SHARED" })
      (.ofPackage { packageName := "com.example" } {}) fun catalogue =>
        (scan ⟨catalogue, {}, { debugTag := "SHARED" }⟩ plainLoad plainMachine "app.apk"
          still).value.1 :=
  scan_composed _ _ _ _ _ _ still _ accepted_plain rfl

end Engine

end ApkAudit
