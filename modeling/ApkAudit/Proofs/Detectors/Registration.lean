import ApkAudit.Proofs.Code.Repetition
import ApkAudit.Proofs.Detectors.Distinct

/-! Listeners that are registered at run time, read off the operations that built the index: which
methods count as registering one, in which order they are named, and where the findings stand. -/

namespace ApkAudit.Detectors.Broadcast

open CodeIndex (Operation)

section Watchers

variable (log : List Operation) (exclusions : Exclusions) (actions : List String)

def Registering (m : Method) : Prop :=
  m.name = "onReceive" ∨ ∃ callee, .call m callee ∈ log ∧
    ((callee.className = "android.content.IntentFilter" ∧ callee.name ∈ ["<init>", "addAction"]) ∨
      callee.name = "registerReceiver")

structure Watches (m : Method) : Prop where
  kept : exclusions.excludes m.className = false
  reads : ∃ action ∈ actions, ∃ register, .read action m register ∈ log
  registering : Registering log m

def readings : List Method :=
  actions.flatMap fun action =>
    log.filterMap fun op => (op.readOf? action).map StringRead.reader

structure ListsWatchers (found : List Method) : Prop where
  mem_iff : ∀ m, m ∈ found ↔ Watches log exclusions actions m
  nodup : found.Nodup
  order : found.Pairwise fun a b => (readings log actions).idxOf a < (readings log actions).idxOf b

lemma mem_readings {m : Method} :
    m ∈ readings log actions ↔ ∃ action ∈ actions, ∃ register, .read action m register ∈ log := by
  simp only [readings, List.mem_flatMap, List.mem_filterMap, Option.map_eq_some_iff]
  constructor
  · rintro ⟨action, ha, op, hop, read, hr, rfl⟩
    refine ⟨action, ha, read.register, CodeIndex.mem_reads_stringIn.mp ?_⟩
    exact List.mem_eraseDups.mpr (List.mem_filterMap.mpr ⟨op, hop, hr⟩)
  · rintro ⟨action, ha, register, hop⟩
    exact ⟨action, ha, _, hop, ⟨m, register⟩, if_pos rfl, rfl⟩

lemma readings_eq : readings log actions =
    (actions.flatMap fun action => log.filterMap (Operation.readOf? action)).map
      StringRead.reader := by
  simp only [readings, List.map_flatMap, List.map_filterMap]

end Watchers

section Locations

variable (c : Context) (log : List Operation) (l : Listener)

lemma locations_ofLog :
    locations { c with index := .ofLog log } l =
      (readings log l.actions).eraseDups.filter fun m => !c.exclusions.excludes m.className &&
        registersReceiver { c with index := .ofLog log } m := by
  have hreads : ∀ action, (CodeIndex.ofLog log).readsOf action =
      (log.filterMap (Operation.readOf? action)).eraseDups :=
    (CodeIndex.reflects_ofLog log).readsOf_eq_stringIn
  -- a class is excluded or not for all reads of a method, so both filters act on the methods
  have hkept : ∀ reads : List StringRead, (c.exclusions.keepReads reads).map StringRead.reader =
      (reads.map StringRead.reader).filter fun m => !c.exclusions.excludes m.className := by
    intro reads
    rw [List.filter_map]
    rfl
  have hall : ∀ actions : List String,
      (actions.flatMap fun action =>
          c.exclusions.keepReads ((CodeIndex.ofLog log).readsOf action)) =
        c.exclusions.keepReads
          (actions.flatMap fun action => (log.filterMap (Operation.readOf? action)).eraseDups) := by
    intro actions
    simp only [hreads]
    exact (List.filter_flatMap ..).symm
  rw [locations_eq_firsts, hall, hkept, List.filter_filter]
  have hp : ∀ (p : Method → Bool) (a b : Method), id a = id b → p a = p b := by
    rintro p a b rfl
    rfl
  refine (firsts_filter (hp _) [] _).trans ?_
  rw [firsts_flatMap_eraseDups, ← readings_eq, firsts_id]
  exact List.filter_congr fun m _ => Bool.and_comm _ _

lemma registersReceiver_ofLog {m : Method} :
    registersReceiver { c with index := .ofLog log } m = true ↔ Registering log m := by
  rw [registersReceiver, (CodeIndex.reflects_ofLog log).calleesOf_eq_entryIn]
  simp [registers, Registering, CodeIndex.mem_callees_entryIn]

lemma listsWatchers_locations :
    ListsWatchers log c.exclusions l.actions (locations { c with index := .ofLog log } l) := by
  rw [locations_ofLog]
  refine ⟨fun m => ?_, (CodeIndex.nodup_eraseDups _).filter _,
    (pairwise_idxOf_eraseDups _).filter _⟩
  rw [List.mem_filter, List.mem_eraseDups, mem_readings, Bool.and_eq_true,
    registersReceiver_ofLog, Bool.not_eq_true']
  constructor
  · rintro ⟨hreads, hkept, hregistering⟩
    exact ⟨hkept, hreads, hregistering⟩
  · rintro ⟨hkept, hreads, hregistering⟩
    exact ⟨hreads, hkept, hregistering⟩

end Locations

section Findings

variable (c : Context) (l : Listener)

lemma of_mem_dynamicFinding? {f : Finding} (h : f ∈ dynamicFinding? c l) :
    f.tag = l.dynamicTag ∧ f.details = (locations c l).map Method.display ∧ locations c l ≠ [] := by
  unfold dynamicFinding? at h
  dsimp only at h
  split at h
  · cases h
  · next hne =>
    obtain rfl := Option.some.inj h
    exact ⟨rfl, rfl, fun he => hne (List.isEmpty_iff.mpr he)⟩

lemma exists_dynamicFinding? (h : locations c l ≠ []) : ∃ f, f ∈ dynamicFinding? c l := by
  refine ⟨_, if_neg ?_⟩
  rwa [List.isEmpty_iff]

lemma tags_dynamicFindings (listeners : List Listener) :
    ((listeners.filterMap (dynamicFinding? c)).map Finding.tag).Sublist
      (listeners.map Listener.dynamicTag) := by
  induction listeners with
  | nil => exact List.Sublist.slnil
  | cons l listeners ih =>
    rw [List.filterMap_cons, List.map_cons]
    cases h : dynamicFinding? c l with
    | none => exact ih.cons _
    | some f =>
      rw [← (of_mem_dynamicFinding? c l h).1]
      exact ih.cons_cons _

end Findings

def watched : List (String × List String) :=
  [("DYNAMIC_LISTEN_PACKAGE_ADDED",
      ["android.intent.action.PACKAGE_ADDED", "android.intent.action.PACKAGE_INSTALL"]),
    ("DYNAMIC_LISTEN_PACKAGE_CHANGED", ["android.intent.action.PACKAGE_CHANGED"]),
    ("DYNAMIC_LISTEN_PACKAGE_REPLACED", ["android.intent.action.PACKAGE_REPLACED"]),
    ("DYNAMIC_LISTEN_PACKAGE_REMOVED",
      ["android.intent.action.PACKAGE_REMOVED", "android.intent.action.PACKAGE_FULLY_REMOVED"])]

lemma watched_eq : watched = listeners.map fun l => (l.dynamicTag, l.actions) := rfl

lemma eq_of_dynamicTag {l l' : Listener} (hl : l ∈ listeners) (hl' : l' ∈ listeners)
    (h : l.dynamicTag = l'.dynamicTag) : l = l' :=
  (by decide : ∀ l ∈ listeners, ∀ l' ∈ listeners, l.dynamicTag = l'.dynamicTag → l = l')
    l hl l' hl' h

/-- Findings about listeners that are registered at run time: at most one under each tag, in their
order, where some method waits for one of its actions, with a line for each such method. -/
structure CoversWatchers (log : List Operation) (exclusions : Exclusions)
    (dynamic : List Finding) : Prop where
  tags : (dynamic.map Finding.tag).Sublist (watched.map Prod.fst)
  nodup : (dynamic.map Finding.tag).Nodup
  written_iff : ∀ tag actions, (tag, actions) ∈ watched →
    (tag ∈ dynamic.map Finding.tag ↔ ∃ m, Watches log exclusions actions m)
  details : ∀ tag actions, (tag, actions) ∈ watched → ∀ f ∈ dynamic, f.tag = tag →
    ∃ found, ListsWatchers log exclusions actions found ∧
      f.details = found.map fun m => m.className ++ "->" ++ m.name ++ m.descriptor

lemma coversWatchers_dynamicFindings (c : Context) (log : List Operation) :
    CoversWatchers log c.exclusions
      (listeners.filterMap (dynamicFinding? { c with index := .ofLog log })) := by
  have htags := tags_dynamicFindings { c with index := .ofLog log } listeners
  have hmem : ∀ {tag actions}, (tag, actions) ∈ watched →
      ∃ l ∈ listeners, l.dynamicTag = tag ∧ l.actions = actions := by
    intro tag actions h
    rw [watched_eq] at h
    obtain ⟨l, hl, he⟩ := List.mem_map.mp h
    exact ⟨l, hl, Prod.mk.inj he⟩
  refine ⟨htags, htags.nodup (by decide), fun tag actions h => ?_, fun tag actions h f hf ht => ?_⟩
  · obtain ⟨l, hl, rfl, rfl⟩ := hmem h
    have hlist := listsWatchers_locations c log l
    constructor
    · intro h
      obtain ⟨f, hf, ht⟩ := List.mem_map.mp h
      obtain ⟨l', hl', hd⟩ := List.mem_filterMap.mp hf
      obtain ⟨ht', -, hne⟩ := of_mem_dynamicFinding? _ l' hd
      obtain rfl := eq_of_dynamicTag hl' hl (ht'.symm.trans ht)
      obtain ⟨m, hm⟩ := List.exists_mem_of_ne_nil _ hne
      exact ⟨m, (hlist.mem_iff m).mp hm⟩
    · rintro ⟨m, hm⟩
      obtain ⟨f, hd⟩ := exists_dynamicFinding? { c with index := .ofLog log } l
        (List.ne_nil_of_mem ((hlist.mem_iff m).mpr hm))
      rw [← (of_mem_dynamicFinding? _ l hd).1]
      exact List.mem_map_of_mem (List.mem_filterMap.mpr ⟨l, hl, hd⟩)
  · obtain ⟨l, hl, rfl, rfl⟩ := hmem h
    obtain ⟨l', hl', hd⟩ := List.mem_filterMap.mp hf
    obtain ⟨ht', hdetails, -⟩ := of_mem_dynamicFinding? _ l' hd
    obtain rfl := eq_of_dynamicTag hl' hl (ht'.symm.trans ht)
    exact ⟨_, listsWatchers_locations c log l', hdetails⟩

theorem findings_cover_watchers (c : Context) (log : List Operation) :
    ∃ dynamic, CoversWatchers log c.exclusions dynamic ∧
      ∀ manifest,
        (detector.write { c with index := .ofLog log, manifest := manifest }).value.findings =
            manifestFindings manifest ++ dynamic ∧
          ∀ f ∈ manifestFindings manifest, f.tag ∉ watched.map Prod.fst := by
  refine ⟨_, coversWatchers_dynamicFindings c log, fun manifest => ⟨?_, fun f hf => ?_⟩⟩
  · rw [write_of_findings rfl]
    rfl
  · exact (by decide : ∀ tag ∈ listeners.map Listener.tag, tag ∉ watched.map Prod.fst) f.tag
      (tag_manifestFindings manifest f hf)

end ApkAudit.Detectors.Broadcast
