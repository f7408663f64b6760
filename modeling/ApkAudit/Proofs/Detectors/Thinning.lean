import ApkAudit.Proofs.Detectors.Tags
import Mathlib.Data.List.Forall2

/-! More exclusions make fewer findings.  Whole findings and detail lines are left out, and nothing
else changes: leaving out classes commutes with naming each caller once and with the choice of the
findings that are written.  What comes from the manifest alone stays. -/

namespace ApkAudit

structure Finding.Thins (f g : Finding) : Prop where
  tag : f.tag = g.tag
  level : f.level = g.level
  title : f.title = g.title
  description : f.description = g.description
  details : f.details.Sublist g.details

lemma Finding.Thins.refl (f : Finding) : f.Thins f :=
  ⟨rfl, rfl, rfl, rfl, List.Sublist.refl _⟩

/-- Findings that come from others by leaving out whole findings and detail lines: an injection
that keeps the order takes each one to the finding that it thins. -/
def Thinned (fewer more : List Finding) : Prop :=
  List.SublistForall₂ Finding.Thins fewer more

namespace Thinned

lemma nil (more : List Finding) : Thinned [] more :=
  List.SublistForall₂.nil

lemma refl (findings : List Finding) : Thinned findings findings := by
  induction findings with
  | nil => exact nil _
  | cons f findings ih => exact .cons (.refl f) ih

lemma single {f g : Finding} (h : f.Thins g) : Thinned [f] [g] :=
  .cons h .nil

lemma skip {fewer more : List Finding} (h : Thinned fewer more) (skipped : List Finding) :
    Thinned fewer (skipped ++ more) := by
  induction skipped with
  | nil => exact h
  | cons g skipped ih => exact .cons_right ih

lemma append {fewer more fewer' more' : List Finding} (h : Thinned fewer more)
    (h' : Thinned fewer' more') : Thinned (fewer ++ fewer') (more ++ more') := by
  induction h with
  | nil => exact h'.skip _
  | cons hf _ ih => exact .cons hf ih
  | cons_right _ ih => exact .cons_right ih

lemma filterMap {α : Type} {f g : α → Option Finding} (items : List α)
    (h : ∀ item, ∀ few ∈ f item, ∃ many ∈ g item, few.Thins many) :
    Thinned (items.filterMap f) (items.filterMap g) := by
  induction items with
  | nil => exact nil _
  | cons item items ih =>
    rw [List.filterMap_cons, List.filterMap_cons]
    cases hf : f item with
    | none =>
      cases g item with
      | none => exact ih
      | some many => exact .cons_right ih
    | some few =>
      obtain ⟨many, hg, ht⟩ := h item few hf
      rw [hg]
      exact .cons ht ih

lemma flatMap {α : Type} {f g : α → List Finding} {items : List α}
    (h : ∀ item ∈ items, Thinned (f item) (g item)) :
    Thinned (items.flatMap f) (items.flatMap g) := by
  induction items with
  | nil => exact nil _
  | cons item items ih =>
    rw [List.flatMap_cons, List.flatMap_cons]
    exact (h item List.mem_cons_self).append
      (ih fun other ho => h other (List.mem_cons_of_mem item ho))

end Thinned

namespace Exclusions

/-- All that is left out by one list of exclusions is left out by another one. -/
def Within (few many : Exclusions) : Prop :=
  ∀ name, few.excludes name = true → many.excludes name = true

lemma within_ofPatterns {few many : List String} (h : ∀ pattern ∈ few, pattern ∈ many) :
    (ofPatterns few).Within (ofPatterns many) := by
  intro name hn
  obtain ⟨package, hp, hc⟩ := List.any_eq_true.mp hn
  obtain ⟨hm, hne⟩ := List.mem_filter.mp hp
  obtain ⟨pattern, hpat, rfl⟩ := List.mem_map.mp hm
  exact List.any_eq_true.mpr
    ⟨_, List.mem_filter.mpr ⟨List.mem_map.mpr ⟨pattern, h pattern hpat, rfl⟩, hne⟩, hc⟩

variable {few many : Exclusions}

lemma Within.filter {α : Type} (h : few.Within many) (className : α → String) (items : List α) :
    items.filter (fun item => !many.excludes (className item)) =
      (items.filter fun item => !few.excludes (className item)).filter
        fun item => !many.excludes (className item) := by
  rw [List.filter_filter]
  refine List.filter_congr fun item _ => ?_
  cases hf : few.excludes (className item) with
  | false => simp
  | true => simp [h _ hf]

lemma Within.keepReads (h : few.Within many) (reads : List StringRead) :
    many.keepReads reads =
      (few.keepReads reads).filter fun read => !many.excludes read.reader.className := by
  have hf := h.filter (fun read : StringRead => read.reader.className) reads
  exact hf

lemma Within.keepCalls (h : few.Within many) (calls : List CallSite) :
    many.keepCalls calls =
      (few.keepCalls calls).filter fun call => !many.excludes call.caller.className := by
  have hf := h.filter (fun call : CallSite => call.caller.className) calls
  exact hf

end Exclusions

namespace Detectors

section Firsts

variable {α κ : Type} [DecidableEq κ] (key : α → κ)

def firsts (kept items : List α) : List α :=
  items.foldl (fun kept item => if kept.any (key · = key item) then kept else kept ++ [item]) kept

variable {key}

lemma firsts_filter {p : α → Bool} (hp : ∀ a b, key a = key b → p a = p b) (kept items : List α) :
    firsts key (kept.filter p) (items.filter p) = (firsts key kept items).filter p := by
  induction items generalizing kept with
  | nil => rfl
  | cons item items ih =>
    by_cases hi : p item = true
    · -- whatever shares the key of the item is kept with it
      have ha : (kept.filter p).any (key · = key item) = kept.any (key · = key item) := by
        rw [List.any_filter]
        refine congrArg kept.any (funext fun other => ?_)
        by_cases hk : key other = key item
        · simp [hk, hp other item hk, hi]
        · simp [hk]
      have hs := ih (if kept.any (key · = key item) then kept else kept ++ [item])
      simp only [firsts, List.filter_cons_of_pos hi, List.foldl_cons, ha] at hs ⊢
      rw [← hs]
      split
      · rfl
      · rw [List.filter_append, List.filter_cons_of_pos hi, List.filter_nil]
    · have hs := ih (if kept.any (key · = key item) then kept else kept ++ [item])
      simp only [firsts, List.filter_cons_of_neg hi, List.foldl_cons] at hs ⊢
      rw [← hs]
      split
      · rfl
      · rw [List.filter_append, List.filter_cons_of_neg hi, List.filter_nil, List.append_nil]

end Firsts

def manifestTags : List String :=
  ["LISTEN_PACKAGE_ADDED", "LISTEN_PACKAGE_CHANGED", "LISTEN_PACKAGE_REPLACED",
    "LISTEN_PACKAGE_REMOVED", "DEBUGGABLE", "ALLOW_BACKUP", "QUERY_ALL_PACKAGES"]

def ofManifest (findings : List Finding) : List Finding :=
  findings.filter fun f => manifestTags.contains f.tag

lemma ofManifest_append (findings others : List Finding) :
    ofManifest (findings ++ others) = ofManifest findings ++ ofManifest others :=
  List.filter_append findings others

lemma ofManifest_eq_nil (tags : List String) {findings : List Finding}
    (hf : ∀ f ∈ findings, f.tag ∈ tags) (ht : ∀ tag ∈ tags, tag ∉ manifestTags) :
    ofManifest findings = [] := by
  refine List.filter_eq_nil_iff.mpr fun f hm => ?_
  simpa using ht f.tag (hf f hm)

variable {c : Context} {many : Exclusions}

namespace Broadcast

lemma locations_eq_firsts (c : Context) (l : Listener) :
    locations c l = firsts id [] (((l.actions.flatMap fun action =>
      c.exclusions.keepReads (c.index.readsOf action)).map StringRead.reader).filter
        (registersReceiver c)) := by
  unfold locations firsts CodeIndex.addNew
  simp

lemma locations_exclude (h : c.exclusions.Within many) (l : Listener) :
    locations { c with exclusions := many } l =
      (locations c l).filter fun m => !many.excludes m.className := by
  have hregisters : registersReceiver { c with exclusions := many } = registersReceiver c := rfl
  simp only [locations_eq_firsts, h.keepReads, hregisters]
  rw [← List.filter_flatMap]
  have hmap := fun reads : List StringRead =>
    List.filter_map (f := StringRead.reader) (p := fun m => !many.excludes m.className) (l := reads)
  simp only [Function.comp_def] at hmap
  rw [← hmap, List.filter_comm]
  exact firsts_filter (fun a b hk => by rw [show a = b from hk]) [] _

lemma dynamicFinding?_thins (h : c.exclusions.Within many) (l : Listener) :
    ∀ few ∈ dynamicFinding? { c with exclusions := many } l,
      ∃ f ∈ dynamicFinding? c l, few.Thins f := by
  intro few hf
  have hsub : (locations { c with exclusions := many } l).Sublist (locations c l) := by
    rw [locations_exclude h]
    exact List.filter_sublist
  unfold dynamicFinding? at hf ⊢
  dsimp only at hf ⊢
  split at hf
  · cases hf
  · next hne =>
    obtain rfl := Option.some.inj hf
    have hne' : ¬ (locations c l).isEmpty = true := fun he =>
      hne (by simpa [List.isEmpty_iff.mp he] using hsub)
    rw [if_neg hne']
    exact ⟨_, rfl, rfl, rfl, rfl, rfl, hsub.map Method.display⟩

lemma findings_thinned (h : c.exclusions.Within many) :
    Thinned (findings { c with exclusions := many }) (findings c) :=
  (Thinned.refl _).append (Thinned.filterMap listeners (dynamicFinding?_thins h))

lemma ofManifest_dynamic (c : Context) :
    ofManifest (listeners.filterMap (dynamicFinding? c)) = [] :=
  ofManifest_eq_nil _ (tag_dynamicFindings c) (by decide)

lemma ofManifest_findings (c : Context) :
    ofManifest (findings { c with exclusions := many }) = ofManifest (findings c) := by
  simp only [findings, ofManifest_append, ofManifest_dynamic]

end Broadcast

namespace PackageQueries

lemma querySites_exclude (h : c.exclusions.Within many) :
    querySites { c with exclusions := many } =
      (querySites c).filter fun site => !many.excludes site.caller.className := by
  simp only [querySites, h.keepCalls, List.filter_flatMap]

lemma callLines_exclude (many : Exclusions) (sites : List CallSite) :
    (callLines (sites.filter fun site => !many.excludes site.caller.className)).Sublist
      (callLines sites) := by
  have hcallers : distinctCallers (sites.filter fun site => !many.excludes site.caller.className) =
      (distinctCallers sites).filter fun site => !many.excludes site.caller.className :=
    firsts_filter (fun a b (hk : a.caller = b.caller) => by rw [hk]) [] sites
  unfold callLines
  rw [hcallers]
  exact List.filter_sublist.map callLine

lemma declaredFindings_thinned (manifest : Element) {few sites : List CallSite}
    (h : (callLines few).Sublist (callLines sites)) :
    Thinned (declaredFindings manifest few) (declaredFindings manifest sites) := by
  unfold declaredFindings
  dsimp only
  refine (Thinned.refl _).append (Thinned.single ?_)
  split
  · exact ⟨rfl, rfl, rfl, rfl, h⟩
  · exact .refl _

lemma findings_thinned (h : c.exclusions.Within many) :
    Thinned (findings { c with exclusions := many }) (findings c) := by
  have hlines := callLines_exclude many (querySites c)
  rw [← querySites_exclude h] at hlines
  have hnone : (querySites c).isEmpty = true →
      (querySites { c with exclusions := many }).isEmpty = true := by
    intro he
    rw [querySites_exclude h, List.isEmpty_iff.mp he]
    rfl
  unfold findings
  dsimp only
  refine Thinned.append (Thinned.refl _) ?_
  split
  · exact .nil _
  · next hne =>
    rw [if_neg fun he => hne (hnone he)]
    change Thinned (if isFiltered c = true then _ else _) _
    split
    · exact declaredFindings_thinned c.manifest hlines
    · exact .single ⟨rfl, rfl, rfl, rfl, hlines⟩

lemma ofManifest_findings (c : Context) :
    ofManifest (findings c) = ofManifest
      (if isFiltered c && c.hasPermission queryAllPermission then [queryAll] else []) := by
  unfold findings
  dsimp only
  rw [ofManifest_append]
  refine (congrArg _ (ofManifest_eq_nil callTags (fun f hf => ?_) (by decide))).trans
    (List.append_nil _)
  split at hf
  · cases hf
  · exact tag_callFindings c _ f hf

end PackageQueries

lemma contribution_thinned {d : Detector} (hd : d ∈ Catalogue.made all)
    (h : c.exclusions.Within many) :
    Thinned (d.contribution { c with exclusions := many }) (d.contribution c) ∧
      ofManifest (d.contribution { c with exclusions := many }) =
        ofManifest (d.contribution c) := by
  rcases cases_of_mem_made hd with rfl | rfl | rfl
  · rw [contribution_of_findings rfl, contribution_of_findings rfl]
    exact ⟨Broadcast.findings_thinned h, Broadcast.ofManifest_findings c⟩
  · rw [contribution_of_findings rfl, contribution_of_findings rfl]
    exact ⟨Thinned.refl _, rfl⟩
  · rw [contribution_of_findings rfl, contribution_of_findings rfl]
    refine ⟨PackageQueries.findings_thinned h, ?_⟩
    rw [PackageQueries.ofManifest_findings, PackageQueries.ofManifest_findings]
    rfl

end Detectors

open Detectors

def Engine.findingsUnder (patterns : List String) (options : ScanOptions) (load : Loader)
    (machine : Machine) (path : String) (o : Occasion) : List Finding :=
  ((Engine.ofFactories all (.ofPatterns patterns) options).scan load machine path
    o).value.1.findings

/-- With more exclusion patterns a scan has fewer findings and details, and the same findings about
the manifest. -/
theorem Engine.findingsUnder_thinned {few many : List String}
    (h : ∀ pattern ∈ few, pattern ∈ many) (options : ScanOptions) (load : Loader)
    (machine : Machine) (path : String) (o o' : Occasion) :
    Thinned (findingsUnder many options load machine path o')
        (findingsUnder few options load machine path o) ∧
      ofManifest (findingsUnder many options load machine path o') =
        ofManifest (findingsUnder few options load machine path o) := by
  have hw := Exclusions.within_ofPatterns h
  unfold findingsUnder
  by_cases ha : Accepted load machine path
  · obtain ⟨package, hl, hfew⟩ :=
      findings_scan (ofFactories all (.ofPatterns few) options) load machine path o ha
    obtain ⟨package', hl', hmany⟩ :=
      findings_scan (ofFactories all (.ofPatterns many) options) load machine path o' ha
    obtain rfl : package' = package := Except.ok.inj (hl'.symm.trans hl)
    rw [hfew, hmany]
    -- the same detectors are selected both times, whatever is excluded
    have hmade :
        ∀ d ∈ (ofFactories all (.ofPatterns few) options).catalogue.select options.debugTag,
          d ∈ Catalogue.made all := fun d hd =>
      (stablySorted_ofFactories all (.ofPatterns few) options).perm.mem_iff.mp
        (List.mem_of_mem_filter hd)
    have hthin := fun d hd =>
      contribution_thinned (c := .ofPackage package' (.ofPatterns few)) (hmade d hd) hw
    refine ⟨Thinned.flatMap fun d hd => (hthin d hd).1, ?_⟩
    simp only [ofManifest, List.filter_flatMap]
    exact List.flatMap_congr fun d hd => (hthin d hd).2
  · rw [findings_scan_refused _ load machine path o ha,
      findings_scan_refused _ load machine path o' ha]
    exact ⟨Thinned.refl _, rfl⟩

def chatty : Package where
  packageName := "com.example"
  index := CodeIndex.empty.addCall ⟨"com.facebook.Sdk", "init", "()V"⟩
    ⟨"android.content.pm.PackageManager", "getPackageInfo", "()V"⟩

def chattyFindings (patterns : List String) : List Finding :=
  Engine.findingsUnder patterns {} (Engine.loadOf chatty) Engine.plainMachine "app.apk" Engine.still

theorem findingsUnder_thinned_chatty :
    (∀ pattern ∈ ["androidx"], pattern ∈ ["com.facebook", "androidx"]) ∧
    Thinned (chattyFindings ["com.facebook", "androidx"]) (chattyFindings ["androidx"]) ∧
    ofManifest (chattyFindings ["com.facebook", "androidx"]) =
      ofManifest (chattyFindings ["androidx"]) :=
  ⟨by decide, Engine.findingsUnder_thinned (by decide) _ _ _ _ _ _⟩

end ApkAudit
