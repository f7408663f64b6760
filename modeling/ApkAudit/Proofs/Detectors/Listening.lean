import ApkAudit.Proofs.Detectors.Tags
import ApkAudit.Proofs.Manifest.Placement
import Mathlib.Data.List.Forall2
import Mathlib.Tactic.Ring

/-! Listeners in the manifest.  An action is reported once for each receiver around it and each
intent filter around it inside that receiver.  So there is one finding for each action that is
listened to, in document order, exactly if none of them has two such pairs around it. -/

namespace ApkAudit.Detectors.Broadcast

open Element (Placed)

def packageActions : List (String × String) :=
  [("android.intent.action.PACKAGE_ADDED", "LISTEN_PACKAGE_ADDED"),
    ("android.intent.action.PACKAGE_INSTALL", "LISTEN_PACKAGE_ADDED"),
    ("android.intent.action.PACKAGE_CHANGED", "LISTEN_PACKAGE_CHANGED"),
    ("android.intent.action.PACKAGE_REPLACED", "LISTEN_PACKAGE_REPLACED"),
    ("android.intent.action.PACKAGE_REMOVED", "LISTEN_PACKAGE_REMOVED"),
    ("android.intent.action.PACKAGE_FULLY_REMOVED", "LISTEN_PACKAGE_REMOVED")]

def actionTag? (e : Element) : Option String :=
  if e.name = "action" then (e.android? "name").bind fun action => packageActions.lookup action
  else none

lemma tag_listenerOf? (action : String) :
    (listenerOf? action).map Listener.tag = packageActions.lookup action := by
  simp only [listenerOf?, listeners, added, changed, replaced, removed, packageActions,
    List.find?_cons, List.find?_nil, List.contains_cons, List.contains_nil, List.lookup_cons,
    List.lookup_nil, Bool.or_false]
  generalize (action == "android.intent.action.PACKAGE_ADDED") = isAdded
  generalize (action == "android.intent.action.PACKAGE_INSTALL") = isInstall
  generalize (action == "android.intent.action.PACKAGE_CHANGED") = isChanged
  generalize (action == "android.intent.action.PACKAGE_REPLACED") = isReplaced
  generalize (action == "android.intent.action.PACKAGE_REMOVED") = isRemoved
  generalize (action == "android.intent.action.PACKAGE_FULLY_REMOVED") = isFullyRemoved
  cases isAdded <;> cases isInstall <;> cases isChanged <;> cases isReplaced <;>
    cases isRemoved <;> cases isFullyRemoved <;> rfl

lemma tag_manifestFinding? {e : Element} (h : e.name = "action") (receiver : String) :
    (manifestFinding? receiver e).map Finding.tag = actionTag? e := by
  rw [actionTag?, if_pos h, manifestFinding?]
  cases e.android? "name" with
  | none => rfl
  | some action =>
    rw [Option.bind_some, ← tag_listenerOf?]
    change Option.map Finding.tag (listenerOf? action >>= _) = _
    cases listenerOf? action <;> rfl

lemma details_manifestFinding? {e : Element} {receiver : String} {f : Finding}
    (h : manifestFinding? receiver e = some f) : f.details = [s!"Receiver: {receiver}"] := by
  obtain ⟨action, -, h⟩ := Option.bind_eq_some_iff.mp h
  obtain ⟨l, -, h⟩ := Option.bind_eq_some_iff.mp h
  obtain rfl := Option.some.inj h
  rfl

/-- The receivers among some elements from the root on, each with each intent filter inside it. -/
def chains : List Element → List (Element × Element)
  | [] => []
  | e :: inner =>
    (if e.name = "receiver" then (inner.filter (·.name = "intent-filter")).map (e, ·) else []) ++
      chains inner

def Inside (above : List Element) : Prop :=
  ∃ receiver filter, [receiver, filter].Sublist above ∧ receiver.name = "receiver" ∧
    filter.name = "intent-filter"

lemma mem_chains {receiver filter : Element} {above : List Element} :
    (receiver, filter) ∈ chains above ↔ [receiver, filter].Sublist above ∧
      receiver.name = "receiver" ∧ filter.name = "intent-filter" := by
  induction above with
  | nil => simp [chains]
  | cons e inner ih =>
    rw [chains, List.mem_append, ih, List.cons_sublist_cons']
    by_cases hr : e.name = "receiver"
    · simp only [if_pos hr, List.mem_map, List.mem_filter, Prod.mk.injEq, decide_eq_true_eq,
        List.singleton_sublist]
      constructor
      · rintro (⟨f, ⟨hf, hn⟩, rfl, rfl⟩ | ⟨hs, hn⟩)
        · exact ⟨Or.inr ⟨rfl, hf⟩, hr, hn⟩
        · exact ⟨Or.inl hs, hn⟩
      · rintro ⟨hs | ⟨rfl, hf⟩, hn⟩
        · exact Or.inr ⟨hs, hn⟩
        · exact Or.inl ⟨filter, ⟨hf, hn.2⟩, rfl, rfl⟩
    · simp only [if_neg hr, List.not_mem_nil, false_or]
      constructor
      · rintro ⟨hs, hn⟩
        exact ⟨Or.inl hs, hn⟩
      · rintro ⟨hs | ⟨rfl, -⟩, hn⟩
        · exact ⟨hs, hn⟩
        · exact (hr hn.1).elim

lemma chains_ne_nil_iff (above : List Element) : chains above ≠ [] ↔ Inside above := by
  constructor
  · intro h
    obtain ⟨⟨receiver, filter⟩, rest, hc⟩ := List.exists_cons_of_ne_nil h
    exact ⟨receiver, filter, mem_chains.mp (by rw [hc]; exact List.mem_cons_self)⟩
  · rintro ⟨receiver, filter, hs⟩ hn
    have hm := mem_chains.mpr hs
    rw [hn] at hm
    cases hm

instance (above : List Element) : Decidable (Inside above) :=
  decidable_of_iff (chains above ≠ []) (chains_ne_nil_iff above)

def heardActions (manifest : Element) : List Placed :=
  (manifest.placed []).filter fun p => (actionTag? p.element).isSome ∧ Inside p.above

/-- A finding about an action: it has the tag of the action, and names a receiver around it. -/
def Announces (f : Finding) (p : Placed) : Prop :=
  actionTag? p.element = some f.tag ∧
    ∃ chain ∈ chains p.above, f.details = [s!"Receiver: {receiverName chain.1}"]

section Findings

variable (receiver : String) (name : String) (attributes : List Xml.Attribute)
  (children : List Element)

def actionFindings (e : Element) : List Finding :=
  (e.findAll "action").filterMap (manifestFinding? receiver)

def filterFindings (e : Element) : List Finding :=
  (e.findAll "intent-filter").flatMap (actionFindings receiver)

lemma manifestFindings_eq (manifest : Element) : manifestFindings manifest =
    (manifest.findAll "receiver").flatMap fun e => filterFindings (receiverName e) e := by
  unfold manifestFindings receiverActions filteredActions filterFindings actionFindings
  simp only [List.filterMap_flatMap, List.filterMap_map, Function.comp_def]

lemma actionFindings_node : actionFindings receiver ⟨name, attributes, children⟩ =
    (if name = "action" then (manifestFinding? receiver ⟨name, attributes, children⟩).toList
      else []) ++ children.flatMap (actionFindings receiver) := by
  unfold actionFindings
  rw [Element.findAll_node, List.filterMap_append, List.filterMap_flatMap]
  congr 1
  split
  · cases h : manifestFinding? receiver ⟨name, attributes, children⟩ <;> simp [h]
  · rfl

lemma filterFindings_node : filterFindings receiver ⟨name, attributes, children⟩ =
    (if name = "intent-filter" then actionFindings receiver ⟨name, attributes, children⟩
      else []) ++ children.flatMap (filterFindings receiver) :=
  Element.flatMap_findAll_node name attributes children "intent-filter" (actionFindings receiver)

lemma manifestFindings_node : manifestFindings ⟨name, attributes, children⟩ =
    (if name = "receiver" then filterFindings (receiverName ⟨name, attributes, children⟩)
      ⟨name, attributes, children⟩ else []) ++ children.flatMap manifestFindings := by
  rw [manifestFindings_eq, Element.flatMap_findAll_node]
  simp only [← manifestFindings_eq]

lemma length_actionFindings (other : String) (e : Element) :
    (actionFindings receiver e).length = (actionFindings other e).length := by
  unfold actionFindings
  rw [List.length_filterMap_eq_countP, List.length_filterMap_eq_countP]
  refine List.countP_congr fun action ha => ?_
  have hn : action.name = "action" := by simpa using (List.mem_filter.mp ha).2
  rw [← Option.isSome_map (f := Finding.tag), ← Option.isSome_map (f := Finding.tag),
    tag_manifestFinding? hn, tag_manifestFinding? hn]

lemma length_filterFindings (other : String) (e : Element) :
    (filterFindings receiver e).length = (filterFindings other e).length := by
  unfold filterFindings
  rw [List.length_flatMap, List.length_flatMap]
  exact congrArg List.sum (List.map_congr_left fun f _ => length_actionFindings receiver other f)

end Findings

section Counting

def weight (p : Placed) : Nat :=
  if (actionTag? p.element).isSome then (chains p.above).length else 0

lemma length_chains_concat (above : List Element) (e : Element) :
    (chains (above ++ [e])).length = (chains above).length +
      if e.name = "intent-filter" then above.countP (·.name = "receiver") else 0 := by
  induction above with
  | nil => simp [chains]
  | cons a above ih =>
    rw [List.cons_append, chains, chains, List.length_append, List.length_append, ih,
      List.countP_cons]
    by_cases hr : a.name = "receiver" <;> by_cases hf : e.name = "intent-filter"
    · simp only [hr, hf, ↓reduceIte, List.filter_append, decide_true, List.filter_cons_of_pos,
        List.filter_nil, List.map_append, List.map_cons, List.map_nil, List.length_append,
        List.length_map, List.length_cons, List.length_nil, zero_add]
      omega
    · simp [hr, hf, List.filter_append]
    · simp [hr, hf]
    · simp [hr, hf]

lemma length_toList_manifestFinding? {e : Element} (h : e.name = "action") (receiver : String) :
    (manifestFinding? receiver e).toList.length = if (actionTag? e).isSome then 1 else 0 := by
  rw [← tag_manifestFinding? h receiver]
  cases manifestFinding? receiver e <;> rfl

lemma sum_weight (above : List Element) (e : Element) :
    ((e.placed above).map weight).sum = (chains above).length * (actionFindings "" e).length +
      above.countP (·.name = "receiver") * (filterFindings "" e).length +
      (manifestFindings e).length := by
  induction e using Element.induct generalizing above with
  | node name attributes children ih =>
    have hchildren : ∀ around : List Element,
        ((children.flatMap (Element.placed around)).map weight).sum =
        (chains around).length * (children.flatMap (actionFindings "")).length +
          around.countP (·.name = "receiver") * (children.flatMap (filterFindings "")).length +
          (children.flatMap manifestFindings).length := by
      intro around
      induction children with
      | nil => simp
      | cons child rest ihr =>
        simp only [List.flatMap_cons, List.map_append, List.sum_append_nat, List.length_append]
        rw [ih child List.mem_cons_self, ihr fun c hc => ih c (List.mem_cons_of_mem child hc)]
        ring
    rw [Element.placed_node, List.map_cons, List.sum_cons, hchildren, length_chains_concat,
      actionFindings_node, filterFindings_node, manifestFindings_node, actionFindings_node]
    by_cases ha : name = "action"
    · subst ha
      have hw : weight ⟨above, ⟨"action", attributes, children⟩⟩ = (chains above).length *
          (manifestFinding? "" ⟨"action", attributes, children⟩).toList.length := by
        rw [length_toList_manifestFinding? rfl, weight]
        split <;> simp
      simp only [hw, String.reduceEq, ↓reduceIte, add_zero, List.length_flatMap, List.countP_append,
        decide_false, Bool.false_eq_true, not_false_eq_true, List.countP_cons_of_neg,
        List.countP_nil, List.length_append, List.nil_append]
      ring
    · have hw : weight ⟨above, ⟨name, attributes, children⟩⟩ = 0 := by
        simp [weight, actionTag?, ha]
      by_cases hf : name = "intent-filter"
      · subst hf
        simp only [hw, ↓reduceIte, List.length_flatMap, List.countP_append, String.reduceEq,
          decide_false, Bool.false_eq_true, not_false_eq_true, List.countP_cons_of_neg,
          List.countP_nil, add_zero, zero_add, List.nil_append, List.length_append]
        ring
      · by_cases hr : name = "receiver"
        · subst hr
          simp only [hw, String.reduceEq, ↓reduceIte, add_zero, List.length_flatMap,
            List.countP_append, decide_true, List.countP_cons_of_pos, List.countP_nil, zero_add,
            List.nil_append, filterFindings_node, List.length_append, length_filterFindings _ ""]
          ring
        · simp [hw, ha, hf, hr]

end Counting

section Order

lemma inside_iff_length (above : List Element) : Inside above ↔ 0 < (chains above).length := by
  rw [← chains_ne_nil_iff, List.length_pos_iff]

lemma inside_concat_iff (above : List Element) (e : Element) :
    Inside (above ++ [e]) ↔ Inside above ∨
      e.name = "intent-filter" ∧ ∃ receiver ∈ above, receiver.name = "receiver" := by
  rw [inside_iff_length, inside_iff_length, length_chains_concat]
  have hc : 0 < above.countP (·.name = "receiver") ↔
      ∃ receiver ∈ above, receiver.name = "receiver" := by simp [List.countP_pos_iff]
  rw [← hc]
  split <;> simp_all

def outermost? (above : List Element) : Option Element :=
  above.find? fun e => e.name = "receiver"

lemma outermost?_concat {above : List Element} {receiver : Element}
    (h : outermost? above = some receiver) (e : Element) :
    outermost? (above ++ [e]) = some receiver := by
  rw [outermost?, List.find?_append]
  simp only [outermost?] at h
  rw [h]
  rfl

def announce (p : Placed) : Option Finding :=
  if p.element.name = "action" ∧ Inside p.above then
    (outermost? p.above).bind fun receiver => manifestFinding? (receiverName receiver) p.element
  else none

variable {above : List Element} {receiver : Element}

lemma filterMap_announce_inside (hi : Inside above) (ho : outermost? above = some receiver)
    (e : Element) :
    (e.placed above).filterMap announce = actionFindings (receiverName receiver) e := by
  induction e using Element.induct generalizing above with
  | node name attributes children ih =>
    have hi' := (inside_concat_iff above ⟨name, attributes, children⟩).mpr (Or.inl hi)
    have hchildren : children.flatMap (fun child => (child.placed
          (above ++ [⟨name, attributes, children⟩])).filterMap announce) =
        children.flatMap (actionFindings (receiverName receiver)) :=
      List.flatMap_congr fun child hc => ih child hc hi' (outermost?_concat ho _)
    have he : announce ⟨above, ⟨name, attributes, children⟩⟩ = if name = "action" then
        manifestFinding? (receiverName receiver) ⟨name, attributes, children⟩ else none := by
      simp [announce, hi, ho]
    rw [Element.placed_node, actionFindings_node, ← List.singleton_append, List.filterMap_append,
      List.filterMap_flatMap, hchildren]
    congr 1
    rw [List.filterMap_cons, he]
    by_cases hn : name = "action"
    · rw [if_pos hn, if_pos hn]
      cases manifestFinding? (receiverName receiver) ⟨name, attributes, children⟩ <;> rfl
    · rw [if_neg hn, if_neg hn]
      rfl

lemma filterMap_announce_node (hi : ¬ Inside above) (name : String)
    (attributes : List Xml.Attribute) (children : List Element) :
    ((Element.mk name attributes children).placed above).filterMap announce =
      children.flatMap fun child =>
        (child.placed (above ++ [⟨name, attributes, children⟩])).filterMap announce := by
  have he : announce ⟨above, ⟨name, attributes, children⟩⟩ = none := by simp [announce, hi]
  rw [Element.placed_node, List.filterMap_cons, he, List.filterMap_flatMap]

lemma flatMap_sublist {α β : Type} {f g : α → List β} {items : List α}
    (h : ∀ item ∈ items, (f item).Sublist (g item)) :
    (items.flatMap f).Sublist (items.flatMap g) := by
  induction items with
  | nil => exact List.Sublist.refl _
  | cons item items ih =>
    rw [List.flatMap_cons, List.flatMap_cons]
    exact (h item List.mem_cons_self).append
      (ih fun other ho => h other (List.mem_cons_of_mem item ho))

lemma filterMap_announce_receiver (hi : ¬ Inside above) (ho : outermost? above = some receiver)
    (e : Element) :
    ((e.placed above).filterMap announce).Sublist (filterFindings (receiverName receiver) e) := by
  induction e using Element.induct generalizing above with
  | node name attributes children ih =>
    have ho' := outermost?_concat ho ⟨name, attributes, children⟩
    rw [filterMap_announce_node hi, filterFindings_node]
    by_cases hf : name = "intent-filter"
    · have hi' : Inside (above ++ [⟨name, attributes, children⟩]) :=
        (inside_concat_iff _ _).mpr (Or.inr ⟨hf, receiver, List.mem_of_find?_eq_some ho,
          by simpa using List.find?_some ho⟩)
      have hchildren : children.flatMap (fun child => (child.placed
            (above ++ [⟨name, attributes, children⟩])).filterMap announce) =
          actionFindings (receiverName receiver) ⟨name, attributes, children⟩ := by
        rw [actionFindings_node, if_neg (by simp [hf]), List.nil_append]
        exact List.flatMap_congr fun child _ => filterMap_announce_inside hi' ho' child
      rw [hchildren, if_pos hf]
      exact List.sublist_append_left _ _
    · have hi' : ¬ Inside (above ++ [⟨name, attributes, children⟩]) := by
        rw [inside_concat_iff]
        exact not_or.mpr ⟨hi, fun h => hf h.1⟩
      rw [if_neg hf, List.nil_append]
      exact flatMap_sublist fun child hc => ih child hc hi' ho'

lemma filterMap_announce_sublist (ho : outermost? above = none) (e : Element) :
    ((e.placed above).filterMap announce).Sublist (manifestFindings e) := by
  have hnone : ∀ {around : List Element}, outermost? around = none → ¬ Inside around := by
    rintro around hn ⟨r, f, hs, hr, -⟩
    have hm : r ∈ around := hs.subset List.mem_cons_self
    exact (List.find?_eq_none.mp hn r hm) (by simpa using hr)
  induction e using Element.induct generalizing above with
  | node name attributes children ih =>
    rw [filterMap_announce_node (hnone ho), manifestFindings_node]
    by_cases hr : name = "receiver"
    · have ho' : outermost? (above ++ [⟨name, attributes, children⟩]) =
          some ⟨name, attributes, children⟩ := by
        rw [outermost?] at ho ⊢
        simp [List.find?_append, ho, hr]
      have hi' : ¬ Inside (above ++ [⟨name, attributes, children⟩]) := by
        rw [inside_concat_iff]
        exact not_or.mpr ⟨hnone ho, fun h => by simp [hr] at h⟩
      rw [if_pos hr, filterFindings_node, if_neg (by simp [hr]), List.nil_append]
      exact (flatMap_sublist fun child _ => filterMap_announce_receiver hi' ho' child).trans
        (List.sublist_append_left _ _)
    · have ho' : outermost? (above ++ [⟨name, attributes, children⟩]) = none := by
        rw [outermost?] at ho ⊢
        simp [List.find?_append, ho, hr]
      rw [if_neg hr, List.nil_append]
      exact flatMap_sublist fun child hc => ih child hc ho'

end Order

section Announced

lemma exists_outermost? {above : List Element} (h : Inside above) :
    ∃ receiver filter, outermost? above = some receiver ∧ (receiver, filter) ∈ chains above := by
  induction above with
  | nil =>
    obtain ⟨r, f, hs, -⟩ := h
    cases hs
  | cons a inner ih =>
    obtain ⟨r, f, hs, hr, hf⟩ := h
    by_cases ha : a.name = "receiver"
    · have hm : f ∈ inner := by
        rcases List.cons_sublist_cons'.mp hs with hs | ⟨-, hs⟩
        · exact hs.subset (by simp)
        · exact hs.subset (by simp)
      refine ⟨a, f, by simp [outermost?, ha], mem_chains.mpr ⟨?_, ha, hf⟩⟩
      exact (List.singleton_sublist.mpr hm).cons_cons a
    · have hs' : [r, f].Sublist inner := by
        rcases List.cons_sublist_cons'.mp hs with hs | ⟨rfl, -⟩
        · exact hs
        · exact (ha hr).elim
      obtain ⟨receiver, filter, ho, hc⟩ := ih ⟨r, f, hs', hr, hf⟩
      refine ⟨receiver, filter, ?_, ?_⟩
      · simpa [outermost?, ha] using ho
      · rw [chains, if_neg ha]
        exact hc

lemma isSome_announce (p : Placed) :
    (announce p).isSome = decide ((actionTag? p.element).isSome ∧ Inside p.above) := by
  unfold announce
  by_cases hn : p.element.name = "action"
  · by_cases hi : Inside p.above
    · obtain ⟨receiver, filter, ho, -⟩ := exists_outermost? hi
      rw [if_pos ⟨hn, hi⟩, ho, Option.bind_some, ← tag_manifestFinding? hn (receiverName receiver)]
      simp [hi]
    · simp [hi]
  · simp [hn, actionTag?]

lemma announces_of_announce {p : Placed} {f : Finding} (h : announce p = some f) :
    Announces f p := by
  unfold announce at h
  split at h
  · next hp =>
    obtain ⟨receiver, filter, ho, hc⟩ := exists_outermost? hp.2
    rw [ho, Option.bind_some] at h
    refine ⟨?_, (receiver, filter), hc, details_manifestFinding? h⟩
    rw [← tag_manifestFinding? hp.1 (receiverName receiver), h]
    rfl
  · cases h

lemma forall₂_announces (places : List Placed) :
    List.Forall₂ Announces (places.filterMap announce)
      (places.filter fun p => (announce p).isSome) := by
  induction places with
  | nil => exact .nil
  | cons p places ih =>
    cases h : announce p with
    | none => simpa [h] using ih
    | some f => simpa [h] using ⟨announces_of_announce h, ih⟩

lemma countP_le_sum (ns : List Nat) : ns.countP (0 < ·) ≤ ns.sum := by
  induction ns with
  | nil => exact Nat.le_refl 0
  | cons n ns ih =>
    rw [List.countP_cons, List.sum_cons]
    by_cases hn : 0 < n
    · simp only [hn, decide_true, if_true]
      omega
    · simp only [hn, decide_false, Bool.false_eq_true, if_false]
      omega

lemma sum_eq_countP_iff (ns : List Nat) :
    ns.sum = ns.countP (0 < ·) ↔ ∀ n ∈ ns, n ≤ 1 := by
  induction ns with
  | nil => simp
  | cons n ns ih =>
    have hle := countP_le_sum ns
    rw [List.forall_mem_cons, ← ih, List.countP_cons, List.sum_cons]
    by_cases hn : 0 < n
    · simp only [hn, decide_true, if_true]
      omega
    · simp only [hn, decide_false, Bool.false_eq_true, if_false]
      omega

lemma weight_pos_iff (p : Placed) : 0 < weight p ↔ (announce p).isSome = true := by
  rw [isSome_announce, decide_eq_true_eq, weight, inside_iff_length]
  split <;> simp_all

lemma heardActions_eq (manifest : Element) :
    heardActions manifest = (manifest.placed []).filter fun p => (announce p).isSome := by
  simp only [heardActions, isSome_announce]

lemma length_heardActions (manifest : Element) :
    (heardActions manifest).length = ((manifest.placed []).map weight).countP (0 < ·) := by
  rw [heardActions_eq, ← List.countP_eq_length_filter, List.countP_map]
  refine List.countP_congr fun p _ => ?_
  simp [weight_pos_iff]

lemma length_manifestFindings (manifest : Element) :
    (manifestFindings manifest).length = ((manifest.placed []).map weight).sum := by
  simp [sum_weight, chains]

lemma weight_le_one_iff (manifest : Element) :
    (∀ n ∈ (manifest.placed []).map weight, n ≤ 1) ↔
      ∀ p ∈ heardActions manifest, (chains p.above).length = 1 := by
  rw [List.forall_mem_map]
  constructor
  · intro h p hp
    obtain ⟨hm, ht⟩ := List.mem_filter.mp hp
    obtain ⟨htag, hi⟩ := of_decide_eq_true ht
    have hw := h p hm
    rw [weight, if_pos htag] at hw
    have := (inside_iff_length p.above).mp hi
    omega
  · intro h p hp
    by_cases hw : 0 < weight p
    · have hh : p ∈ heardActions manifest := by
        rw [heardActions_eq]
        exact List.mem_filter.mpr ⟨hp, (weight_pos_iff p).mp hw⟩
      have := h p hh
      unfold weight
      split <;> omega
    · omega

def listening (findings : List Finding) : List Finding :=
  findings.filter fun f => packageActions.any fun action => action.2 = f.tag

lemma listening_findings (c : Context) :
    listening (detector.write c).value.findings = manifestFindings c.manifest := by
  have hw : (detector.write c).value.findings = findings c :=
    Writer.findings_run_flatMap .empty (findings c)
  rw [hw, findings, listening, List.filter_append]
  have hm : (manifestFindings c.manifest).filter
      (fun f => packageActions.any fun action => action.2 = f.tag) = manifestFindings c.manifest :=
    List.filter_eq_self.mpr fun f hf =>
      (by decide : ∀ tag ∈ listeners.map Listener.tag,
        (packageActions.any fun action => action.2 = tag) = true) f.tag
        (tag_manifestFindings c.manifest f hf)
  have hd : (listeners.filterMap (dynamicFinding? c)).filter
      (fun f => packageActions.any fun action => action.2 = f.tag) = [] :=
    List.filter_eq_nil_iff.mpr fun f hf =>
      (by decide : ∀ tag ∈ listeners.map Listener.dynamicTag,
        ¬ (packageActions.any fun action => action.2 = tag) = true) f.tag
        (tag_dynamicFindings c f hf)
  rw [hm, hd, List.append_nil]

/-- The listeners in the manifest are reported one by one, in document order, exactly if each action
that is listened to has one receiver and one intent filter in it around. -/
theorem announced_iff_one_chain (c : Context) :
    List.Forall₂ Announces (listening (detector.write c).value.findings)
        (heardActions c.manifest) ↔
      ∀ p ∈ heardActions c.manifest, (chains p.above).length = 1 := by
  rw [listening_findings, ← weight_le_one_iff, ← sum_eq_countP_iff, ← length_heardActions,
    ← length_manifestFindings]
  constructor
  · exact List.Forall₂.length_eq
  · intro hl
    have ha := forall₂_announces (c.manifest.placed [])
    rw [← heardActions_eq] at ha
    have hsub : ((c.manifest.placed []).filterMap announce).Sublist (manifestFindings c.manifest) :=
      filterMap_announce_sublist rfl c.manifest
    rwa [hsub.eq_of_length (ha.length_eq.trans hl.symm)] at ha

def nestedFilters : Element :=
  let name : Xml.Attribute :=
    ⟨some Element.androidUri, "name", "android.intent.action.PACKAGE_ADDED"⟩
  ⟨"manifest", [], [⟨"receiver", [], [⟨"intent-filter", [], [⟨"intent-filter", [],
    [⟨"action", [name], []⟩]⟩]⟩]⟩]⟩

theorem nested_filters_announce_twice :
    ¬ List.Forall₂ Announces
      (listening (detector.write (.ofPackage { manifest := nestedFilters } {})).value.findings)
      (heardActions nestedFilters) := by
  intro h
  rw [listening_findings] at h
  have hfindings : (manifestFindings nestedFilters).length = 2 := by decide +kernel
  have hactions : (heardActions nestedFilters).length = 1 := by decide +kernel
  have hl := hfindings.symm.trans (h.length_eq.trans hactions)
  omega

end Announced

end ApkAudit.Detectors.Broadcast
