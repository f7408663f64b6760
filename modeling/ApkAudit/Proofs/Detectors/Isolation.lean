import ApkAudit.Proofs.Detectors.Listening
import ApkAudit.Proofs.Manifest.Pruning

/-! Malformed branches of the manifest.  Each detector passes over those it cannot use: its findings
are the same with and without them.  Two of the detectors end well exactly if there are none. -/

namespace ApkAudit

open Element (Placed Cut Pruned)

lemma Analysis.ending_ofFindings (findings : List Finding) (problems : List String) :
    (Analysis.ofFindings findings problems).ending = .complete ↔ problems = [] := by
  cases problems with
  | nil => simp [Analysis.ofFindings]
  | cons problem problems => simp [Analysis.ofFindings]

namespace Detectors

namespace Broadcast

def IsNameless (p : Placed) : Prop :=
  p.element.name = "action" ∧ p.element.children = [] ∧ p.element.android? "name" = none

section Pruned

variable {α : Type} {above : List Element} {e e' : Element}

lemma IsNameless.gather {p : Placed} (h : IsNameless p) {tag : String}
    {collect : Element → List α} :
    p.element.gather tag collect = if "action" = tag then collect p.element else [] := by
  rw [Element.gather_of_childless h.2.1, h.1]

lemma manifestFinding?_nameless (receiver : String) (h : e.android? "name" = none) :
    manifestFinding? receiver e = none := by
  rw [manifestFinding?, h]
  rfl

lemma actionFindings_eq_gather (receiver : String) (e : Element) : actionFindings receiver e =
    e.gather "action" fun action => (manifestFinding? receiver action).toList :=
  List.filterMap_eq_flatMap_toList _ _

lemma actionFindings_pruned (h : Pruned (.ofElements IsNameless) above [e] [e'])
    (receiver : String) : actionFindings receiver e' = actionFindings receiver e := by
  rw [actionFindings_eq_gather, actionFindings_eq_gather]
  apply h.gather
  · intro more d hd
    rw [IsNameless.gather hd, if_pos rfl, manifestFinding?_nameless receiver hd.2.2]
    rfl
  · intro more d d' hp _
    rw [manifestFinding?, hp.android?_eq, manifestFinding?]

lemma filterFindings_pruned (h : Pruned (.ofElements IsNameless) above [e] [e'])
    (receiver : String) : filterFindings receiver e' = filterFindings receiver e := by
  apply h.gather
  · intro more d hd
    exact IsNameless.gather hd
  · intro more d d' hp _
    exact actionFindings_pruned hp receiver

lemma manifestFindings_pruned (h : Pruned (.ofElements IsNameless) above [e] [e']) :
    manifestFindings e' = manifestFindings e := by
  rw [manifestFindings_eq, manifestFindings_eq]
  apply h.gather
  · intro more d hd
    exact IsNameless.gather hd
  · intro more d d' hp _
    rw [receiverName, hp.android?_eq, filterFindings_pruned hp, receiverName]

end Pruned

lemma findings_pruned {c : Context} {manifest : Element}
    (h : Pruned (.ofElements IsNameless) [] [c.manifest] [manifest]) :
    findings { c with manifest := manifest } = findings c := by
  unfold findings
  rw [manifestFindings_pruned h]
  rfl

lemma problems_eq_nil_iff (manifest : Element) : problems manifest = [] ↔
    ∀ receiver ∈ manifest.descendants, receiver.name = "receiver" →
      ∀ filter ∈ receiver.inside, filter.name = "intent-filter" →
        ∀ action ∈ filter.inside, action.name = "action" → action.android? "name" ≠ none := by
  have hfilters : ∀ {receiver filter : Element}, receiver.name = "receiver" →
      (filter ∈ receiver.findAll "intent-filter" ↔
        filter ∈ receiver.inside ∧ filter.name = "intent-filter") :=
    fun h => Element.mem_findAll_of_ne (by simp [h])
  have hactions : ∀ {filter action : Element}, filter.name = "intent-filter" →
      (action ∈ filter.findAll "action" ↔ action ∈ filter.inside ∧ action.name = "action") :=
    fun h => Element.mem_findAll_of_ne (by simp [h])
  have hnil : problems manifest = [] ↔
      ∀ pair ∈ receiverActions manifest, pair.2.android? "name" ≠ none := by
    simp [problems, List.filterMap_eq_nil_iff]
  rw [hnil]
  constructor
  · intro h receiver hr hrn filter hf hfn action ha han
    refine h (receiverName receiver, action) (List.mem_flatMap.mpr ⟨receiver, ?_, ?_⟩)
    · exact Element.mem_findAll.mpr ⟨hr, hrn⟩
    · exact List.mem_map.mpr ⟨action, List.mem_flatMap.mpr
        ⟨filter, (hfilters hrn).mpr ⟨hf, hfn⟩, (hactions hfn).mpr ⟨ha, han⟩⟩, rfl⟩
  · intro h pair hp
    obtain ⟨receiver, hr, hp⟩ := List.mem_flatMap.mp hp
    obtain ⟨action, ha, rfl⟩ := List.mem_map.mp hp
    obtain ⟨filter, hf, ha⟩ := List.mem_flatMap.mp ha
    obtain ⟨hr, hrn⟩ := Element.mem_findAll.mp hr
    obtain ⟨hf, hfn⟩ := (hfilters hrn).mp hf
    obtain ⟨ha, han⟩ := (hactions hfn).mp ha
    exact h receiver hr hrn filter hf hfn action ha han

end Broadcast

namespace PackageQueries

/-- A package without a name and with nothing in it; or an intent, neither inside another one nor
around anything that is queried, whose first action is missing or has no name. -/
def IsMalformed (p : Placed) : Prop :=
  (p.element.name = "package" ∧ p.element.children = [] ∧ p.element.android? "name" = none) ∨
  (p.element.name = "intent" ∧ (∀ outer ∈ p.above, outer.name ≠ "intent") ∧
    (∀ d ∈ p.element.inside, d.name ∉ ["package", "intent", "queries"]) ∧
    ∀ action, (p.element.findAll "action").head? = some action → action.android? "name" = none)

section Pruned

variable {α : Type} {above : List Element} {e e' : Element}

lemma IsMalformed.gather {p : Placed} (h : IsMalformed p) {tag : String}
    (ht : tag ∈ ["package", "intent", "queries"]) {collect : Element → List α} :
    p.element.gather tag collect = if p.element.name = tag then collect p.element else [] := by
  rcases h with ⟨-, hc, -⟩ | ⟨-, -, hd, -⟩
  · exact Element.gather_of_childless hc
  · apply Element.gather_of_inside
    intro d hm hn
    exact hd d hm (hn ▸ ht)

lemma IsMalformed.gather_queries {p : Placed} (h : IsMalformed p) {collect : Element → List α} :
    p.element.gather "queries" collect = [] := by
  rw [h.gather (by simp), if_neg]
  rcases h with ⟨hn, -⟩ | ⟨hn, -⟩ <;> simp [hn]

lemma IsMalformed.gather_inside {p : Placed} (h : IsMalformed p) {tag : String}
    {collect : Element → List α} (hi : ∃ outer ∈ p.above, outer.name = "intent")
    (ht : tag ≠ "package") : p.element.gather tag collect = [] := by
  rcases h with ⟨hn, hc, -⟩ | ⟨-, ho, -⟩
  · rw [Element.gather_of_childless hc, hn, if_neg ht.symm]
  · obtain ⟨outer, hm, hn⟩ := hi
    exact (ho outer hm hn).elim

lemma firstAttribute?_eq_gather (tag name : String) (e : Element) :
    firstAttribute? tag name e = (e.gather tag fun d => [d.android? name]).head?.join := by
  rw [firstAttribute?, Element.gather]
  cases e.findAll tag <;> rfl

lemma firstAttribute?_pruned (h : Pruned (.ofElements IsMalformed) above [e] [e'])
    (he : e.name = "intent") {tag : String} (hi : "intent" ≠ tag) (hp : tag ≠ "package")
    (name : String) : firstAttribute? tag name e' = firstAttribute? tag name e := by
  obtain ⟨hn, -, hchildren⟩ := h.single
  -- below the intent no further intents can be left out, as it is above them
  have hg : e'.children.flatMap (Element.gather tag fun d => [d.android? name]) =
      e.children.flatMap (Element.gather tag fun d => [d.android? name]) := by
    apply hchildren.gather_forest
    · intro more d hd
      exact IsMalformed.gather_inside hd ⟨e, by simp, he⟩ hp
    · intro more d d' hd _
      rw [hd.android?_eq]
  rw [firstAttribute?_eq_gather, firstAttribute?_eq_gather, Element.gather_eq, hn, hg,
    Element.gather_eq tag _ e]
  simp [he, hi]

lemma intent?_pruned (h : Pruned (.ofElements IsMalformed) above [e] [e'])
    (he : e.name = "intent") : intent? e' = intent? e := by
  rw [intent?, firstAttribute?_pruned h he (by decide) (by decide),
    firstAttribute?_pruned h he (by decide) (by decide), intent?]

lemma intent?_malformed {p : Placed} (h : IsMalformed p) (hn : p.element.name = "intent") :
    intent? p.element = none := by
  rcases h with ⟨hn', -⟩ | ⟨-, -, -, ha⟩
  · simp [hn'] at hn
  · have hf : firstAttribute? "action" "name" p.element = none := by
      rw [firstAttribute?, Option.bind_eq_none_iff]
      exact ha
    rw [intent?, hf, Option.map_none]

lemma packages_pruned (h : Pruned (.ofElements IsMalformed) above [e] [e']) :
    (e'.findAll "package").filterMap (Element.android? "name") =
      (e.findAll "package").filterMap (Element.android? "name") := by
  rw [List.filterMap_eq_flatMap_toList, List.filterMap_eq_flatMap_toList]
  apply h.gather
  · intro more d hd
    rw [IsMalformed.gather hd (by simp)]
    rcases hd with ⟨-, -, (hn : d.android? "name" = none)⟩ | ⟨(hn : d.name = "intent"), -⟩
    · simp [hn]
    · simp [hn]
  · intro more d d' hp _
    rw [hp.android?_eq]

lemma intents_pruned (h : Pruned (.ofElements IsMalformed) above [e] [e']) :
    (e'.findAll "intent").filterMap intent? = (e.findAll "intent").filterMap intent? := by
  rw [List.filterMap_eq_flatMap_toList, List.filterMap_eq_flatMap_toList]
  apply h.gather
  · intro more d hd
    rw [IsMalformed.gather hd (by simp)]
    split
    · next hn => rw [intent?_malformed hd hn, Option.toList_none]
    · rfl
  · intro more d d' hp hn
    rw [intent?_pruned hp hn]

lemma queries_pruned (h : Pruned (.ofElements IsMalformed) above [e] [e']) :
    queriedPackages e' = queriedPackages e ∧ queriedIntents e' = queriedIntents e := by
  unfold queriedPackages queriedIntents packageElements
  simp only [List.flatMap_map]
  constructor
  · apply h.gather
    · intro more d hd
      exact IsMalformed.gather_queries hd
    · intro more d d' hp _
      exact packages_pruned hp
  · apply h.gather
    · intro more d hd
      exact IsMalformed.gather_queries hd
    · intro more d d' hp _
      exact intents_pruned hp

end Pruned

lemma findings_pruned {c : Context} {manifest : Element}
    (h : Pruned (.ofElements IsMalformed) [] [c.manifest] [manifest]) :
    findings { c with manifest := manifest } = findings c := by
  obtain ⟨hp, hi⟩ := queries_pruned h
  have hd : ∀ sites, declaredFindings manifest sites = declaredFindings c.manifest sites := by
    intro sites
    rw [declaredFindings, hp, hi, declaredFindings]
  unfold findings
  dsimp only
  rw [hd]
  rfl

end PackageQueries

namespace ApplicationFlags

def IsInvalid (name : String) (e : Element) : Prop :=
  ∃ value, e.android? name = some value ∧ Text.lower (Text.trim value) ∉ ["true", "false"]

def without (names : List String) (attributes : List Xml.Attribute) : List Xml.Attribute :=
  attributes.filter fun a => ¬ (a.uri = some Element.androidUri ∧ a.name ∈ names)

def invalidFlags : Cut :=
  .ofAttributes fun e attributes =>
    ∃ names, (∀ name ∈ names, IsInvalid name e) ∧ attributes = without names e.attributes

section Pruned

variable {above : List Element} {e e' : Element} {name : String}

lemma readFlag_of_invalid (h : IsInvalid name e) : ∃ value, readFlag name e = .error value := by
  obtain ⟨value, hv, hn⟩ := h
  obtain ⟨ht, hf⟩ : ¬ Text.lower (Text.trim value) = "true" ∧
      ¬ Text.lower (Text.trim value) = "false" := by simpa using hn
  exact ⟨Text.trim value, by simp [readFlag, hv, ht, hf]⟩

lemma readFlag_of_valid (h : ¬ IsInvalid name e) : ∃ flag, readFlag name e = .ok flag := by
  unfold readFlag
  cases hv : e.android? name with
  | none => exact ⟨false, rfl⟩
  | some value =>
    have hn : Text.lower (Text.trim value) ∈ ["true", "false"] := by
      by_contra hn
      exact h ⟨value, hv, hn⟩
    rcases (by simpa using hn : _ ∨ _) with ht | hf
    · exact ⟨true, by simp [ht]⟩
    · exact ⟨false, by simp [hf]⟩

lemma android?_without_of_mem {names : List String} (h : name ∈ names)
    (ha : e'.attributes = without names e.attributes) : e'.android? name = none := by
  rw [Element.android?, Element.attribute?, ha, without, List.find?_filter, Option.map_eq_none_iff,
    List.find?_eq_none]
  intro a _ hc
  obtain ⟨hkept, hn, hu⟩ : (a.uri ≠ some Element.androidUri ∨ a.name ∉ names) ∧
      a.name = name ∧ a.uri = some Element.androidUri := by simpa using hc
  exact hkept.elim (fun hne => hne hu) (fun hne => hne (hn ▸ h))

lemma android?_without_of_not_mem {names : List String} (h : name ∉ names)
    (ha : e'.attributes = without names e.attributes) : e'.android? name = e.android? name := by
  rw [Element.android?, Element.attribute?, ha, without, List.find?_filter, Element.android?,
    Element.attribute?]
  congr 2
  funext a
  by_cases hn : a.name = name
  · simp [hn, h]
  · simp [hn]

def flagFindings (application : Element) : List Finding :=
  flags.filterMap fun flag =>
    match readFlag flag.name application with
    | .ok true => some flag.finding
    | _ => none

lemma findings_eq_gather (manifest : Element) :
    findings manifest = manifest.gather "application" flagFindings := by
  unfold findings checks
  simp only [List.filterMap_flatMap, List.filterMap_map]
  rfl

lemma flagFindings_pruned (h : Pruned invalidFlags above [e] [e']) :
    flagFindings e' = flagFindings e := by
  obtain ⟨names, hinvalid, ha⟩ := h.single.2.1
  unfold flagFindings
  congr 1
  funext flag
  by_cases hn : flag.name ∈ names
  · obtain ⟨value, hv⟩ := readFlag_of_invalid (hinvalid flag.name hn)
    have hf : readFlag flag.name e' = .ok false := by
      rw [readFlag, android?_without_of_mem hn ha]
      rfl
    rw [hv, hf]
  · rw [readFlag, android?_without_of_not_mem hn ha, readFlag]

lemma findings_pruned (h : Pruned invalidFlags above [e] [e']) : findings e' = findings e := by
  rw [findings_eq_gather, findings_eq_gather]
  apply h.gather
  · intro more d hd
    exact hd.elim
  · intro more d d' hp _
    exact flagFindings_pruned hp

end Pruned

lemma forall_mem_flags {P : String → Prop} :
    (∀ flag ∈ flags, P flag.name) ↔ P "debuggable" ∧ P "allowBackup" := by
  have hf : (∀ flag ∈ flags, P flag.name) ↔ P debuggable.name ∧ P allowBackup.name := by
    simp [flags]
  exact hf

lemma problems_eq_nil_iff (manifest : Element) : problems manifest = [] ↔
    ∀ application ∈ manifest.descendants, application.name = "application" →
      ¬ IsInvalid "debuggable" application ∧ ¬ IsInvalid "allowBackup" application := by
  have hflags : ∀ application : Element,
      (∀ flag ∈ flags, ¬ IsInvalid flag.name application) ↔
        ¬ IsInvalid "debuggable" application ∧ ¬ IsInvalid "allowBackup" application :=
    fun application => forall_mem_flags (P := fun name => ¬ IsInvalid name application)
  rw [problems, List.filterMap_eq_nil_iff]
  constructor
  · intro h application ha hn
    refine (hflags application).mp fun flag hf hi => ?_
    obtain ⟨value, hv⟩ := readFlag_of_invalid hi
    have hc := h (application, flag) (List.mem_flatMap.mpr
      ⟨application, Element.mem_findAll.mpr ⟨ha, hn⟩, List.mem_map.mpr ⟨flag, hf, rfl⟩⟩)
    simp [hv] at hc
  · intro h pair hp
    obtain ⟨application, ha, hp⟩ := List.mem_flatMap.mp hp
    obtain ⟨flag, hf, rfl⟩ := List.mem_map.mp hp
    obtain ⟨ha, hn⟩ := Element.mem_findAll.mp ha
    obtain ⟨set, hs⟩ := readFlag_of_valid ((hflags application).mpr (h application ha hn) flag hf)
    simp [hs]

end ApplicationFlags

/-- What the detectors cannot use does not bear on what they find elsewhere, whichever of it is left
out.  Broadcasts are checked completely if every action in a filter of a receiver has a name, and
flags are if every application has valid ones. -/
theorem malformed_branches_isolated (c : Context) :
    (∀ manifest, Pruned (.ofElements Broadcast.IsNameless) [] [c.manifest] [manifest] →
      (Broadcast.detector.write { c with manifest := manifest }).value.findings =
        (Broadcast.detector.write c).value.findings) ∧
    (∀ manifest, Pruned (.ofElements PackageQueries.IsMalformed) [] [c.manifest] [manifest] →
      (PackageQueries.detector.write { c with manifest := manifest }).value.findings =
        (PackageQueries.detector.write c).value.findings) ∧
    (∀ manifest, Pruned ApplicationFlags.invalidFlags [] [c.manifest] [manifest] →
      (ApplicationFlags.detector.write { c with manifest := manifest }).value.findings =
        (ApplicationFlags.detector.write c).value.findings) ∧
    ((Broadcast.detector.analyze c).ending = .complete ↔
      ∀ receiver ∈ c.manifest.descendants, receiver.name = "receiver" →
        ∀ filter ∈ receiver.inside, filter.name = "intent-filter" →
          ∀ action ∈ filter.inside, action.name = "action" → action.android? "name" ≠ none) ∧
    ((ApplicationFlags.detector.analyze c).ending = .complete ↔
      ∀ application ∈ c.manifest.descendants, application.name = "application" →
        ¬ ApplicationFlags.IsInvalid "debuggable" application ∧
          ¬ ApplicationFlags.IsInvalid "allowBackup" application) := by
  refine ⟨?_, ?_, ?_, ?_, ?_⟩
  · intro manifest h
    rw [write_of_findings rfl, write_of_findings rfl, Broadcast.findings_pruned h]
  · intro manifest h
    rw [write_of_findings rfl, write_of_findings rfl, PackageQueries.findings_pruned h]
  · intro manifest h
    rw [write_of_findings rfl, write_of_findings rfl, ApplicationFlags.findings_pruned h]
  · exact (Analysis.ending_ofFindings _ _).trans (Broadcast.problems_eq_nil_iff c.manifest)
  · exact (Analysis.ending_ofFindings _ _).trans (ApplicationFlags.problems_eq_nil_iff c.manifest)

def shabbyManifest (attributes : List Xml.Attribute) (actions queries : List Element) : Element :=
  ⟨"manifest", [], [
    ⟨"application", attributes, [⟨"receiver", [], [⟨"intent-filter", [], actions⟩]⟩]⟩,
    ⟨"queries", [], queries⟩]⟩

def shabbyFlag : Xml.Attribute := ⟨some Element.androidUri, "debuggable", " maybe"⟩

def shabbyActions : List Element :=
  [⟨"action", [], []⟩,
    ⟨"action", [⟨some Element.androidUri, "name", "android.intent.action.PACKAGE_ADDED"⟩], []⟩]

def shabbyQueries : List Element :=
  [⟨"package", [], []⟩, ⟨"intent", [], [⟨"data", [], []⟩, ⟨"action", [], []⟩]⟩]

def shabby : Context where
  packageName := "com.example"
  manifest := shabbyManifest [shabbyFlag] shabbyActions shabbyQueries
  index := CodeIndex.empty.addCall ⟨"com.example.Main", "run", "()V"⟩
    ⟨"android.content.pm.PackageManager", "getPackageInfo", "()V"⟩
  permissions := []
  minSdk := 1
  targetSdk := 30
  exclusions := {}

theorem malformed_branches_isolated_shabby :
    (Broadcast.detector.write { shabby with
        manifest := shabbyManifest [shabbyFlag] shabbyActions.tail shabbyQueries }).value.findings =
      (Broadcast.detector.write shabby).value.findings ∧
    (PackageQueries.detector.write { shabby with
        manifest := shabbyManifest [shabbyFlag] shabbyActions [] }).value.findings =
      (PackageQueries.detector.write shabby).value.findings ∧
    (ApplicationFlags.detector.write { shabby with
        manifest := shabbyManifest [] shabbyActions shabbyQueries }).value.findings =
      (ApplicationFlags.detector.write shabby).value.findings ∧
    (Broadcast.detector.analyze shabby).ending ≠ .complete ∧
    (ApplicationFlags.detector.analyze shabby).ending ≠ .complete := by
  obtain ⟨hbroadcast, hqueries, hflags, -, -⟩ := malformed_branches_isolated shabby
  have hsame : ∀ drops above es, Pruned (.ofElements drops) above es es :=
    fun drops => Pruned.refl fun _ => rfl
  have hleft : ∀ p, ApplicationFlags.invalidFlags.leaves p p.element.attributes :=
    fun p => ⟨[], by simp, by simp [ApplicationFlags.without]⟩
  refine ⟨hbroadcast _ ?_, hqueries _ ?_, hflags _ ?_, by decide, by decide⟩
  · refine .keep rfl (.keep rfl (.keep rfl (.keep rfl ?_ .nil) .nil) (hsame _ _ _)) .nil
    exact .drop ⟨rfl, rfl, rfl⟩ (hsame _ _ _)
  · refine .keep rfl (.keep rfl (hsame _ _ _) (.keep rfl ?_ .nil)) .nil
    refine .drop (.inl ⟨rfl, rfl, rfl⟩) (.drop (.inr ⟨rfl, ?_, ?_, ?_⟩) .nil)
    · simp
    · simp [Element.inside, Element.descendantsIn, Element.descendants]
    · intro action ha
      obtain rfl : (⟨"action", [], []⟩ : Element) = action := Option.some.inj ha
      rfl
  · refine .keep (hleft _) (.keep ?_ (.refl hleft _ _) (.refl hleft _ _)) .nil
    refine ⟨["debuggable"], fun name hn => ?_, rfl⟩
    exact List.mem_singleton.mp hn ▸ ⟨" maybe", rfl, by decide⟩

end Detectors

end ApkAudit
