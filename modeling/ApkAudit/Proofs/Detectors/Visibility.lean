import ApkAudit.Proofs.Audit.PlatformLevel
import ApkAudit.Proofs.Detectors.Distinct
import ApkAudit.Proofs.Detectors.Isolation

/-! What is written about package queries, read off the platform levels, the permissions, the
operations that built the index and the queries in the manifest. -/

namespace ApkAudit.Detectors.PackageQueries

open CodeIndex (Operation)

section Callers

variable (log : List Operation) (exclusions : Exclusions)

def Calls (m : Method) (name : String) : Prop :=
  ∃ callee, .call m callee ∈ log ∧ callee.name = name

structure Asks (m : Method) : Prop where
  kept : exclusions.excludes m.className = false
  calls : ∃ name ∈ ["queryIntentActivities", "getInstalledApplications", "getPackageInfo"],
    Calls log m name

def IsLineOf (m : Method) (line : String) : Prop :=
  ∃ before name after,
    ["queryIntentActivities", "getInstalledApplications", "getPackageInfo"] =
        before ++ name :: after ∧
      Calls log m name ∧ (∀ other ∈ before, ¬ Calls log m other) ∧
      line = m.display ++ " calls " ++ name

def ListsCallers (lines : List String) : Prop :=
  ∃ callers : List Method, callers.Nodup ∧ (∀ m, m ∈ callers ↔ Asks log exclusions m) ∧
    List.Forall₂ (IsLineOf log) callers lines

end Callers

section Sites

variable {c : Context} {log : List Operation}

lemma mem_keepCalls (h : c.index = .ofLog log) {name : String} {site : CallSite} :
    site ∈ c.exclusions.keepCalls (c.index.callSitesTo name) ↔
      (site.callee.name = name ∧ .call site.caller site.callee ∈ log) ∧
        c.exclusions.excludes site.caller.className = false := by
  rw [Exclusions.keepCalls, List.mem_filter, h,
    (CodeIndex.reflects_ofLog log).mem_callSitesTo, Bool.not_eq_true']

lemma mem_callers_querySites (h : c.index = .ofLog log) {m : Method} :
    m ∈ (querySites c).map CallSite.caller ↔ Asks log c.exclusions m := by
  simp only [querySites, List.mem_map, List.mem_flatMap, mem_keepCalls h]
  constructor
  · rintro ⟨site, ⟨name, hn, ⟨hname, hcall⟩, hkept⟩, rfl⟩
    exact ⟨hkept, name, hn, site.callee, hcall, hname⟩
  · rintro ⟨hkept, name, hn, callee, hcall, hname⟩
    exact ⟨⟨m, callee⟩, ⟨name, hn, ⟨hname, hcall⟩, hkept⟩, rfl⟩

lemma querySites_eq_nil_iff (h : c.index = .ofLog log) :
    querySites c = [] ↔ ¬ ∃ m, Asks log c.exclusions m := by
  constructor
  · rintro he ⟨m, hm⟩
    have hmem := (mem_callers_querySites h).mpr hm
    rw [he] at hmem
    cases hmem
  · intro hn
    refine List.eq_nil_iff_forall_not_mem.mpr fun site hs => hn ⟨site.caller, ?_⟩
    exact (mem_callers_querySites h).mp (List.mem_map_of_mem hs)

lemma isLineOf_callLine (h : c.index = .ofLog log) {site : CallSite}
    (hs : site ∈ distinctCallers (querySites c)) : IsLineOf log site.caller (callLine site) := by
  -- the site that is kept is the first of its caller, and sites go by query methods
  have hfind := find?_of_mem_firsts CallSite.caller hs
  rw [querySites, List.find?_flatMap] at hfind
  obtain ⟨before, name, after, hsplit, hfound, hnone⟩ := List.findSome?_eq_some_iff.mp hfind
  obtain ⟨⟨rfl, hcall⟩, hkept⟩ := (mem_keepCalls h).mp (List.mem_of_find?_eq_some hfound)
  refine ⟨before, site.callee.name, after, hsplit, ⟨site.callee, hcall, rfl⟩, ?_, rfl⟩
  rintro other ho ⟨callee, hother, hname⟩
  have hmem : ⟨site.caller, callee⟩ ∈ c.exclusions.keepCalls (c.index.callSitesTo other) :=
    (mem_keepCalls h).mpr ⟨⟨hname, hother⟩, hkept⟩
  exact List.find?_eq_none.mp (hnone other ho) _ hmem (by simp)

lemma listsCallers_callLines (h : c.index = .ofLog log) :
    ListsCallers log c.exclusions (callLines (querySites c)) := by
  have hcallers : (distinctCallers (querySites c)).map CallSite.caller =
      ((querySites c).map CallSite.caller).eraseDups := map_firsts CallSite.caller (querySites c)
  refine ⟨(distinctCallers (querySites c)).map CallSite.caller, ?_, fun m => ?_, ?_⟩
  · rw [hcallers]
    exact CodeIndex.nodup_eraseDups _
  · rw [hcallers, List.mem_eraseDups, mem_callers_querySites h]
  · rw [callLines, List.forall₂_map_left_iff, List.forall₂_map_right_iff, List.forall₂_same]
    exact fun site hs => isLineOf_callLine h hs

end Sites

section Manifest

variable (manifest : Element)

def QueriesPackage (name : String) : Prop :=
  ∃ q ∈ manifest.descendants, q.name = "queries" ∧
    ∃ p ∈ q.inside, p.name = "package" ∧ p.android? "name" = some name

def QueriesIntent : Prop :=
  ∃ q ∈ manifest.descendants, q.name = "queries" ∧ ∃ i ∈ q.inside, i.name = "intent" ∧
    ∃ action, i.inside.find? (fun d => d.name = "action") = some action ∧
      ∃ name, action.android? "name" = some name

lemma mem_queriedPackages {name : String} :
    name ∈ queriedPackages manifest ↔ QueriesPackage manifest name := by
  simp only [queriedPackages, packageElements, List.mem_flatMap, List.mem_map, List.mem_filterMap]
  constructor
  · rintro ⟨_, ⟨q, hq, rfl⟩, p, hp, hname⟩
    obtain ⟨hmem, hqueries⟩ := Element.mem_findAll.mp hq
    have hne : q.name ≠ "package" := by simp [hqueries]
    obtain ⟨hinside, hpackage⟩ := (Element.mem_findAll_of_ne hne).mp hp
    exact ⟨q, hmem, hqueries, p, hinside, hpackage, hname⟩
  · rintro ⟨q, hmem, hqueries, p, hinside, hpackage, hname⟩
    have hne : q.name ≠ "package" := by simp [hqueries]
    exact ⟨_, ⟨q, Element.mem_findAll.mpr ⟨hmem, hqueries⟩, rfl⟩, p,
      (Element.mem_findAll_of_ne hne).mpr ⟨hinside, hpackage⟩, hname⟩

lemma queriedPackages_eq_nil_iff :
    queriedPackages manifest = [] ↔ ¬ ∃ name, QueriesPackage manifest name := by
  simp only [List.eq_nil_iff_forall_not_mem, mem_queriedPackages, not_exists]

lemma intent?_eq_none_iff {i : Element} (h : i.name = "intent") :
    intent? i = none ↔ ¬ ∃ action, i.inside.find? (fun d => d.name = "action") = some action ∧
      ∃ name, action.android? "name" = some name := by
  have hhead : (i.findAll "action").head? = i.inside.find? fun d => d.name = "action" := by
    rw [Element.findAll, List.head?_filter, Element.descendants_eq, List.find?_cons_of_neg]
    simp [h]
  have hfirst : firstAttribute? "action" "name" i =
      (i.inside.find? fun d => d.name = "action").bind (Element.android? "name") := by
    rw [firstAttribute?, hhead]
  rw [intent?, Option.map_eq_none_iff, hfirst]
  cases i.inside.find? fun d => d.name = "action" with
  | none => simp
  | some action => cases ha : action.android? "name" <;> simp [ha]

lemma queriedIntents_eq_nil_iff : queriedIntents manifest = [] ↔ ¬ QueriesIntent manifest := by
  simp only [queriedIntents, packageElements, List.flatMap_eq_nil_iff, List.mem_map,
    List.filterMap_eq_nil_iff, forall_exists_index, and_imp, forall_apply_eq_imp_iff₂]
  constructor
  · rintro hnone ⟨q, hmem, hqueries, i, hinside, hintent, hnamed⟩
    have hne : q.name ≠ "intent" := by simp [hqueries]
    have hi := hnone q (Element.mem_findAll.mpr ⟨hmem, hqueries⟩) i
      ((Element.mem_findAll_of_ne hne).mpr ⟨hinside, hintent⟩)
    exact (intent?_eq_none_iff hintent).mp hi hnamed
  · intro hnot q hq i hi
    obtain ⟨hmem, hqueries⟩ := Element.mem_findAll.mp hq
    have hne : q.name ≠ "intent" := by simp [hqueries]
    obtain ⟨hinside, hintent⟩ := (Element.mem_findAll_of_ne hne).mp hi
    refine (intent?_eq_none_iff hintent).mpr fun hnamed => hnot ?_
    exact ⟨q, hmem, hqueries, i, hinside, hintent, hnamed⟩

end Manifest

section Written

def tagsFor (filtered permitted silent intentless packageless : Bool) : List String :=
  (if filtered && permitted then ["QUERY_ALL_PACKAGES"] else []) ++
    if silent then []
    else if filtered then
      (if intentless then [] else ["QUERY_INTENT"]) ++
        [if packageless then "QUERY_PERMISSION" else "QUERY_PACKAGE"]
    else ["QUERY_UNKNOWN_PACKAGES"]

lemma mem_tagsFor (filtered permitted silent intentless packageless : Bool) :
    ("QUERY_ALL_PACKAGES" ∈ tagsFor filtered permitted silent intentless packageless ↔
        filtered = true ∧ permitted = true) ∧
      ("QUERY_UNKNOWN_PACKAGES" ∈ tagsFor filtered permitted silent intentless packageless ↔
        silent = false ∧ ¬ filtered = true) ∧
      ("QUERY_INTENT" ∈ tagsFor filtered permitted silent intentless packageless ↔
        silent = false ∧ filtered = true ∧ ¬ intentless = true) ∧
      ("QUERY_PACKAGE" ∈ tagsFor filtered permitted silent intentless packageless ↔
        silent = false ∧ filtered = true ∧ ¬ packageless = true) ∧
      ("QUERY_PERMISSION" ∈ tagsFor filtered permitted silent intentless packageless ↔
        silent = false ∧ filtered = true ∧ packageless = true) := by
  revert filtered permitted silent intentless packageless
  decide

lemma tagsFor_sublist (filtered permitted silent intentless packageless : Bool) :
    (tagsFor filtered permitted silent intentless packageless).Sublist
      ["QUERY_ALL_PACKAGES", "QUERY_UNKNOWN_PACKAGES", "QUERY_INTENT", "QUERY_PACKAGE",
        "QUERY_PERMISSION"] := by
  revert filtered permitted silent intentless packageless
  decide

lemma map_tag_findings (c : Context) :
    (findings c).map Finding.tag =
      tagsFor (isFiltered c) (c.hasPermission queryAllPermission) (querySites c).isEmpty
        (queriedIntents c.manifest).isEmpty (queriedPackages c.manifest).isEmpty := by
  unfold findings declaredFindings tagsFor
  dsimp only
  rw [List.map_append]
  congr 1
  · split <;> rfl
  · split
    · rfl
    · split
      · rw [List.map_append, List.map_singleton]
        congr 1
        · split <;> rfl
        · split <;> rfl
      · rfl

lemma cases_of_mem_findings {c : Context} {f : Finding} (h : f ∈ findings c) :
    f ∈ [queryAll, queryUnknown (querySites c), queryIntent (queriedIntents c.manifest),
      queryPackage (queriedPackages c.manifest), queryPermission (querySites c)] := by
  unfold findings declaredFindings at h
  dsimp only at h
  rcases List.mem_append.mp h with h | h
  · split at h
    · simp_all
    · cases h
  · split at h
    · cases h
    · split at h
      · rcases List.mem_append.mp h with h | h
        · split at h <;> simp_all
        · split at h <;> simp_all
      · simp_all

lemma write_eq (c : Context) : (detector.write c).value.findings = findings c :=
  write_of_findings rfl

lemma findings_of_unfiltered {c : Context} (h : ¬ isFiltered c = true) (manifest : Element) :
    findings { c with manifest := manifest } = findings c ∧
      problems { c with manifest := manifest } = [] := by
  have hf : isFiltered { c with manifest := manifest } = isFiltered c := rfl
  have hs : querySites { c with manifest := manifest } = querySites c := rfl
  simp [findings, problems, hf, hs, h]

end Written

def contextOf (package : Package) (log : List Operation) (exclusions : Exclusions) : Context :=
  .ofPackage { package with index := .ofLog log } exclusions

def Hides (c : Context) : Prop :=
  30 ≤ c.targetSdk ∨ 30 ≤ c.minSdk

lemma isFiltered_iff (c : Context) : isFiltered c = true ↔ Hides c := by
  rw [isFiltered, Context.sdkAtLeast, Bool.or_eq_true, decide_eq_true_eq, decide_eq_true_eq]
  rfl

section Judged

variable (package : Package) (log : List Operation) (exclusions : Exclusions)

def written : List Finding :=
  (detector.write (contextOf package log exclusions)).value.findings

def writtenTags : List String :=
  (written package log exclusions).map Finding.tag

/-- The findings that a package gets for the queries that its code makes. -/
structure Judged : Prop where
  least : Context.LevelIs package.minSdk 1 (contextOf package log exclusions).minSdk
  target : Context.LevelIs package.targetSdk (contextOf package log exclusions).minSdk
    (contextOf package log exclusions).targetSdk
  order : (writtenTags package log exclusions).Sublist
    ["QUERY_ALL_PACKAGES", "QUERY_UNKNOWN_PACKAGES", "QUERY_INTENT", "QUERY_PACKAGE",
      "QUERY_PERMISSION"]
  all_iff : "QUERY_ALL_PACKAGES" ∈ writtenTags package log exclusions ↔
    Hides (contextOf package log exclusions) ∧
      "android.permission.QUERY_ALL_PACKAGES" ∈ package.permissions
  unknown_iff : "QUERY_UNKNOWN_PACKAGES" ∈ writtenTags package log exclusions ↔
    (∃ m, Asks log exclusions m) ∧ ¬ Hides (contextOf package log exclusions)
  intent_iff : "QUERY_INTENT" ∈ writtenTags package log exclusions ↔
    (∃ m, Asks log exclusions m) ∧ Hides (contextOf package log exclusions) ∧
      QueriesIntent package.manifest
  package_iff : "QUERY_PACKAGE" ∈ writtenTags package log exclusions ↔
    (∃ m, Asks log exclusions m) ∧ Hides (contextOf package log exclusions) ∧
      ∃ name, QueriesPackage package.manifest name
  permission_iff : "QUERY_PERMISSION" ∈ writtenTags package log exclusions ↔
    (∃ m, Asks log exclusions m) ∧ Hides (contextOf package log exclusions) ∧
      ¬ ∃ name, QueriesPackage package.manifest name
  packages : ∀ f ∈ written package log exclusions, f.tag = "QUERY_PACKAGE" →
    ∀ line, line ∈ f.details ↔ QueriesPackage package.manifest line
  callers : ∀ f ∈ written package log exclusions,
    f.tag ∈ ["QUERY_UNKNOWN_PACKAGES", "QUERY_PERMISSION"] →
      ListsCallers log exclusions f.details
  unhidden : ¬ Hides (contextOf package log exclusions) → ∀ manifest,
    written { package with manifest := manifest } log exclusions =
        written package log exclusions ∧
      (detector.analyze
        (contextOf { package with manifest := manifest } log exclusions)).ending = .complete

lemma writtenTags_eq :
    writtenTags package log exclusions =
      tagsFor (isFiltered (contextOf package log exclusions))
        (package.permissions.contains queryAllPermission)
        (querySites (contextOf package log exclusions)).isEmpty
        (queriedIntents package.manifest).isEmpty (queriedPackages package.manifest).isEmpty := by
  rw [writtenTags, written, write_eq, map_tag_findings]
  rfl

lemma asks_iff :
    (querySites (contextOf package log exclusions)).isEmpty = false ↔
      ∃ m, Asks log exclusions m := by
  rw [← Bool.not_eq_true, List.isEmpty_iff, querySites_eq_nil_iff rfl, not_not]
  rfl

lemma mem_written {f : Finding} (h : f ∈ written package log exclusions) :
    f ∈ [queryAll, queryUnknown (querySites (contextOf package log exclusions)),
      queryIntent (queriedIntents package.manifest),
      queryPackage (queriedPackages package.manifest),
      queryPermission (querySites (contextOf package log exclusions))] := by
  rw [written, write_eq] at h
  exact cases_of_mem_findings h

lemma details_of_package {f : Finding} (h : f ∈ written package log exclusions)
    (ht : f.tag = "QUERY_PACKAGE") : f.details = queriedPackages package.manifest := by
  have hmem := mem_written package log exclusions h
  simp only [List.mem_cons, List.not_mem_nil, or_false] at hmem
  rcases hmem with rfl | rfl | rfl | rfl | rfl
  · simp [queryAll] at ht
  · simp [queryUnknown] at ht
  · simp [queryIntent] at ht
  · rfl
  · simp [queryPermission] at ht

lemma details_of_calls {f : Finding} (h : f ∈ written package log exclusions)
    (ht : f.tag ∈ ["QUERY_UNKNOWN_PACKAGES", "QUERY_PERMISSION"]) :
    f.details = callLines (querySites (contextOf package log exclusions)) := by
  have hmem := mem_written package log exclusions h
  simp only [List.mem_cons, List.not_mem_nil, or_false] at hmem
  rcases hmem with rfl | rfl | rfl | rfl | rfl
  · simp [queryAll] at ht
  · rfl
  · simp [queryIntent] at ht
  · simp [queryPackage] at ht
  · rfl

lemma listsCallers_contextOf :
    ListsCallers log exclusions (callLines (querySites (contextOf package log exclusions))) := by
  have hindex : (contextOf package log exclusions).index = .ofLog log := rfl
  exact listsCallers_callLines hindex

lemma written_of_not_hides (h : ¬ Hides (contextOf package log exclusions)) (manifest : Element) :
    written { package with manifest := manifest } log exclusions =
        written package log exclusions ∧
      (detector.analyze
        (contextOf { package with manifest := manifest } log exclusions)).ending = .complete := by
  obtain ⟨hfindings, hproblems⟩ :=
    findings_of_unfiltered (mt (isFiltered_iff _).mp h) manifest
  refine ⟨?_, ?_⟩
  · rw [written, written, write_eq, write_eq]
    exact hfindings
  · exact (Analysis.ending_ofFindings _ _).mpr hproblems

end Judged

theorem package_queries_judged (package : Package) (log : List Operation)
    (exclusions : Exclusions) : Judged package log exclusions := by
  have hlevels := Context.levelIs_ofPackage { package with index := .ofLog log } exclusions
  obtain ⟨hall, hunknown, hintent, hpackage, hpermission⟩ :=
    mem_tagsFor (isFiltered (contextOf package log exclusions))
      (package.permissions.contains queryAllPermission)
      (querySites (contextOf package log exclusions)).isEmpty
      (queriedIntents package.manifest).isEmpty (queriedPackages package.manifest).isEmpty
  simp only [← writtenTags_eq, isFiltered_iff, asks_iff, List.isEmpty_iff,
    queriedIntents_eq_nil_iff, queriedPackages_eq_nil_iff, not_not, List.contains_iff_mem]
    at hall hunknown hintent hpackage hpermission
  exact {
    least := hlevels.1
    target := hlevels.2
    order := by
      rw [writtenTags_eq]
      exact tagsFor_sublist ..
    all_iff := hall
    unknown_iff := hunknown
    intent_iff := hintent
    package_iff := hpackage
    permission_iff := hpermission
    packages := by
      intro f hf ht line
      rw [details_of_package package log exclusions hf ht, mem_queriedPackages]
    callers := by
      intro f hf ht
      rw [details_of_calls package log exclusions hf ht]
      exact listsCallers_contextOf package log exclusions
    unhidden := written_of_not_hides package log exclusions }

end ApkAudit.Detectors.PackageQueries
