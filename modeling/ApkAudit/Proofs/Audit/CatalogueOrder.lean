import ApkAudit.Proofs.Audit.Composition
import ApkAudit.Proofs.Report.Masking
import Mathlib.Data.List.Nodup

/-! The order of factories makes no difference.  Detectors of distinct names end up in one order in
the catalogue, and two scans with one catalogue differ in times and signatures only. -/

namespace ApkAudit

namespace Catalogue

variable {factories factories' : List Factory}

lemma StablySorted.unique {before before' after after' : List Detector}
    (h : StablySorted before after) (h' : StablySorted before' after')
    (hp : before.Perm before') (hn : (before.map Detector.name).Nodup) : after = after' := by
  apply List.Perm.eq_of_pairwise ?_ h.ordered h'.ordered ((h.perm.trans hp).trans h'.perm.symm)
  intro a b ha hb hab hba
  have hb' : b ∈ before := hp.mem_iff.mpr (h'.perm.mem_iff.mp hb)
  exact List.inj_on_of_nodup_map hn (h.perm.mem_iff.mp ha) hb' (String.le_antisymm hab hba)

lemma ofFactories_eq_of_perm (hp : factories.Perm factories')
    (hn : ((made factories).map Detector.name).Nodup) :
    (ofFactories factories).value = (ofFactories factories').value := by
  have hs := Engine.stablySorted_ofFactories factories {} {}
  have hs' := Engine.stablySorted_ofFactories factories' {} {}
  have hd := hs.unique hs' (hp.filterMap Except.toOption) hn
  exact congrArg Catalogue.mk hd

end Catalogue

namespace Engine

open Report

def volatileKeys : List String :=
  ["time_starting_analyze", "time_total", "time_analyze", "time_loading_vm",
    "time_finish_analyze", "analyze_error_time", "signature_unique_analyze",
    "signature_unique_exception"]

variable {r r' : Report} {o o' : Occasion}

lemma alike_setVolatile (h : Alike volatileKeys r r') {key : String} (hk : key ∈ volatileKeys)
    (value value' : Json) (hidden : Bool) :
    Alike volatileKeys (r.setMetadata key value hidden) (r'.setMetadata key value' hidden) :=
  h.setMetadata (fun hn => (hn hk).elim) hidden

section Steps

lemma recordPackage_alike (h : Alike volatileKeys r r') (package : Package) (name : String) :
    Alike volatileKeys (Context.recordPackage package name r)
      (Context.recordPackage package name r') := by
  have hname := (h.set "platform" (.string "Android") false).set "package_name" (.string name) false
  simp only [Context.recordPackage]
  split <;> split
  · exact (hname.set _ _ _).set _ _ _
  · exact hname.set _ _ _
  · exact hname.set _ _ _
  · exact hname

lemma recordFile_alike (h : Alike volatileKeys r r') (f : Fingerprint) (minSdk targetSdk : Nat) :
    Alike volatileKeys (Context.recordFile f minSdk targetSdk r)
      (Context.recordFile f minSdk targetSdk r') := by
  simp only [Context.recordFile]
  iterate 6 apply Alike.set
  exact h

lemma build_alike (h : Alike volatileKeys r r') (package : Package) (path : String)
    (fingerprint : Fingerprint) (exclusions : Exclusions) :
    (Context.build package path fingerprint exclusions r).value.1 =
        (Context.build package path fingerprint exclusions r').value.1 ∧
      Alike volatileKeys (Context.build package path fingerprint exclusions r).value.2
        (Context.build package path fingerprint exclusions r').value.2 := by
  have hpackage := recordPackage_alike h package (Text.trim package.packageName)
  simp only [Context.build]
  split
  · exact ⟨rfl, h⟩
  · split
    · exact ⟨rfl, hpackage⟩
    · exact ⟨rfl, recordFile_alike hpackage fingerprint _ _⟩

lemma runDetector_alike (h : Alike volatileKeys r r') (c : Context) (d : Detector) :
    Alike volatileKeys (runDetector c r d).value (runDetector c r' d).value := by
  simp only [runDetector, Logged.value_bind]
  cases (d.analyze c).ending with
  | complete => exact h.merge _
  | incomplete reasons => exact h.merge _
  | crashed => exact h

lemma runDetectors_alike (h : Alike volatileKeys r r') (c : Context) (ds : List Detector) :
    Alike volatileKeys (runDetectors c r ds).value (runDetectors c r' ds).value := by
  induction ds generalizing r r' with
  | nil => exact h
  | cons d ds ih =>
    rw [runDetectors, runDetectors, Logged.value_bind, Logged.value_bind]
    exact ih (runDetector_alike h c d)

lemma recordSuccess_alike (h : Alike volatileKeys r r') :
    Alike volatileKeys (recordSuccess o r) (recordSuccess o' r') := by
  have hcount : Json.int r.totalFindings = .int r'.totalFindings := by
    rw [totalFindings, totalFindings, h.findings]
  have htotal : Alike volatileKeys
      (r.setMetadata "vector_total_count" (.int r.totalFindings) true)
      (r'.setMetadata "vector_total_count" (.int r'.totalFindings) true) :=
    h.setMetadata (fun _ => hcount) true
  simp only [recordSuccess]
  apply alike_setVolatile ?_ (by decide)
  apply Alike.setStatus
  iterate 3 apply alike_setVolatile ?_ (by decide)
  exact htotal

lemma analyze_alike (h : Alike volatileKeys r r') (engine : Engine) (c : Context) :
    Alike volatileKeys (engine.analyze c o r).value (engine.analyze c o' r').value := by
  rw [value_analyze, value_analyze]
  exact recordSuccess_alike (runDetectors_alike (h.setStatus _) c _)

end Steps

section Scans

/-- Two courses of a scan that end the same way, on the same machine, in reports that are alike. -/
structure SameCourse (x y : Except Failure Unit × Report × Machine) : Prop where
  outcome : x.1 = y.1
  report : Alike volatileKeys x.2.1 y.2.1
  machine : x.2.2 = y.2.2

variable (engine : Engine) (load : Loader) (machine : Machine) (path : String)

lemma audit_sameCourse (h : Alike volatileKeys r r') (fingerprint : Fingerprint) :
    SameCourse (engine.audit load machine path fingerprint o r).value
      (engine.audit load machine path fingerprint o' r').value := by
  simp only [audit, Logged.value_bind]
  rcases (load machine path).value with ⟨outcome, machine'⟩
  cases outcome with
  | error failure => exact ⟨rfl, h, rfl⟩
  | ok package =>
    obtain ⟨hcontext, hreport⟩ :=
      build_alike (h.setStatus .startingPackage) package path fingerprint engine.exclusions
    simp only [Logged.value_bind]
    -- the two contexts are one, so both courses go on the same way
    generalize (Context.build package path fingerprint engine.exclusions
      (r.setStatus .startingPackage)).value = x at hcontext hreport ⊢
    generalize (Context.build package path fingerprint engine.exclusions
      (r'.setStatus .startingPackage)).value = y at hcontext hreport ⊢
    obtain ⟨context, report⟩ := x
    obtain ⟨context', report'⟩ := y
    obtain rfl : context = context' := hcontext
    cases context with
    | error failure => exact ⟨rfl, hreport, rfl⟩
    | ok context => exact ⟨rfl, analyze_alike hreport engine context, rfl⟩

lemma run_sameCourse (h : Alike volatileKeys r r') :
    SameCourse (engine.run load machine path o r).value
      (engine.run load machine path o' r').value := by
  have hloading := h.setStatus .loadingPackage
  simp only [run]
  split
  · have hplace : Alike volatileKeys
        (recordPlace machine.disk path (r.setStatus .loadingPackage))
        (recordPlace machine.disk path (r'.setStatus .loadingPackage)) := hloading.set _ _ _
    cases machine.disk.size path with
    | error e => exact ⟨rfl, hplace, rfl⟩
    | ok bytes =>
      have hstart : Alike volatileKeys
          (recordStart bytes o (recordPlace machine.disk path (r.setStatus .loadingPackage)))
          (recordStart bytes o' (recordPlace machine.disk path (r'.setStatus .loadingPackage))) :=
        alike_setVolatile (hplace.set _ _ _) (by decide) _ _ _
      cases machine.disk.fingerprint path with
      | error failure => exact ⟨rfl, hstart, rfl⟩
      | ok fingerprint => exact audit_sameCourse engine load machine path hstart fingerprint
  · exact ⟨rfl, hloading, rfl⟩

lemma finish_alike (h : Alike volatileKeys r r') :
    Alike volatileKeys (finish o r) (finish o' r') :=
  alike_setVolatile h.complete (by decide) _ _ _

lemma abandon_alike (h : Alike volatileKeys r r') (failure : Failure) :
    Alike volatileKeys (abandon failure o r) (abandon failure o' r') := by
  have hrecord : Alike volatileKeys (recordFailure failure o r) (recordFailure failure o' r') := by
    simp only [recordFailure]
    apply Alike.complete
    apply Alike.setStatus
    iterate 2 apply Alike.set
    apply alike_setVolatile ?_ (by decide)
    apply Alike.set
    split
    · exact h.set _ _ _
    · exact h
  simp only [abandon]
  exact alike_setVolatile (alike_setVolatile hrecord (by decide) _ _ _) (by decide) _ _ _

lemma scan_alike :
    Alike volatileKeys (engine.scan load machine path o).value.1
        (engine.scan load machine path o').value.1 ∧
      (engine.scan load machine path o).value.2 = (engine.scan load machine path o').value.2 := by
  have hrun : SameCourse
      (engine.run load machine path o (recordOptions engine.options .empty)).value
      (engine.run load machine path o' (recordOptions engine.options .empty)).value :=
    run_sameCourse engine load machine path (.refl volatileKeys _)
  simp only [scan, Logged.value_bind]
  generalize (engine.run load machine path o (recordOptions engine.options .empty)).value = x
    at hrun ⊢
  generalize (engine.run load machine path o' (recordOptions engine.options .empty)).value = y
    at hrun ⊢
  obtain ⟨outcome, report, after⟩ := x
  obtain ⟨outcome', report', after'⟩ := y
  obtain rfl : outcome = outcome' := hrun.outcome
  obtain rfl : after = after' := hrun.machine
  cases outcome with
  | error failure => exact ⟨abandon_alike hrun.report failure, rfl⟩
  | ok _ => exact ⟨finish_alike hrun.report, rfl⟩

end Scans

/-- Factories in another order make the same catalogue, and scans with it tell the same about a
package.  Only times and signatures may differ. -/
theorem scan_of_reordered_factories {factories factories' : List Factory}
    (hp : factories.Perm factories')
    (hn : ((Catalogue.made factories).map Detector.name).Nodup) (exclusions : Exclusions)
    (options : ScanOptions) (load : Loader) (machine : Machine) (path : String)
    (o o' : Occasion) :
    (Catalogue.ofFactories factories).value = (Catalogue.ofFactories factories').value ∧
      let report := ((ofFactories factories exclusions options).scan load machine path o).value.1
      let report' := ((ofFactories factories' exclusions options).scan load machine path o').value.1
      report.status = report'.status ∧ report.findings = report'.findings ∧
        (∀ key ∉ volatileKeys, report.metadata.get? key = report'.metadata.get? key) ∧
        report.metadata.printable.map Prod.fst = report'.metadata.printable.map Prod.fst := by
  have hcatalogue := Catalogue.ofFactories_eq_of_perm hp hn
  have hengine : ofFactories factories exclusions options =
      ofFactories factories' exclusions options := by
    rw [ofFactories, ofFactories, hcatalogue]
  refine ⟨hcatalogue, ?_⟩
  rw [hengine]
  intro report report'
  have h : Alike volatileKeys report report' :=
    (scan_alike (ofFactories factories' exclusions options) load machine path).1
  exact ⟨h.status, h.findings, fun key hk => h.get? hk, h.printable⟩

def noting (name : String) : Detector where
  name := name
  tags := []
  description := ""
  analyze _ := ⟨[.setMetadata "note" (.string name) false, .start name .info "" ""], .complete⟩

def unsorted : List Factory :=
  [.ok (noting "late"), .ok shaky, .error "missing resources", .ok (noting "early")]

theorem scan_of_reordered_factories_noting :
    let report := ((ofFactories unsorted {} {}).scan plainLoad plainMachine "app.apk" still).value.1
    let report' := ((ofFactories unsorted.reverse {} {}).scan plainLoad plainMachine "app.apk"
      { still with started := "later" }).value.1
    unsorted.Perm unsorted.reverse ∧ ((Catalogue.made unsorted).map Detector.name).Nodup ∧
      report.findings = report'.findings ∧
      report.metadata.get? "note" = report'.metadata.get? "note" := by
  have hp : unsorted.Perm unsorted.reverse := (List.reverse_perm unsorted).symm
  have hn : ((Catalogue.made unsorted).map Detector.name).Nodup := by decide
  obtain ⟨-, hfindings, hvalues, -⟩ := (scan_of_reordered_factories hp hn {} {} plainLoad
    plainMachine "app.apk" still { still with started := "later" }).2
  exact ⟨hp, hn, hfindings, hvalues "note" (by decide)⟩

end Engine

end ApkAudit
