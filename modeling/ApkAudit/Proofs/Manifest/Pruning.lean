import ApkAudit.Proofs.Manifest.Placement

/-! Trees from which some elements are left out, or some attributes of the elements that stay.
Whatever is collected from the elements with a tag stays the same, in the same order, if what is
left out has nothing to collect and the elements that stay give the same as before. -/

namespace ApkAudit.Element

/-- The elements that may be left out, and the attributes that one that stays may be left with. -/
structure Cut where
  drops : Placed → Prop
  leaves : Placed → List Xml.Attribute → Prop

def Cut.ofElements (drops : Placed → Prop) : Cut where
  drops := drops
  leaves p attributes := attributes = p.element.attributes

def Cut.ofAttributes (leaves : Element → List Xml.Attribute → Prop) : Cut where
  drops _ := False
  leaves p attributes := leaves p.element attributes

inductive Pruned (cut : Cut) : List Element → List Element → List Element → Prop
  | nil {above : List Element} : Pruned cut above [] []
  | drop {above : List Element} {e : Element} {rest rest' : List Element} :
      cut.drops ⟨above, e⟩ → Pruned cut above rest rest' → Pruned cut above (e :: rest) rest'
  | keep {above : List Element} {name : String} {attributes attributes' : List Xml.Attribute}
      {children children' rest rest' : List Element} :
      cut.leaves ⟨above, ⟨name, attributes, children⟩⟩ attributes' →
      Pruned cut (above ++ [⟨name, attributes, children⟩]) children children' →
      Pruned cut above rest rest' →
      Pruned cut above (⟨name, attributes, children⟩ :: rest)
        (⟨name, attributes', children'⟩ :: rest')

section Inside

variable {α : Type} {tag : String} {collect : Element → List α} {e : Element}

def inside (e : Element) : List Element :=
  descendantsIn e.children

lemma descendants_eq (e : Element) : e.descendants = e :: e.inside := by
  obtain ⟨name, attributes, children⟩ := e
  rw [descendants, inside]

lemma mem_findAll {d : Element} : d ∈ e.findAll tag ↔ d ∈ e.descendants ∧ d.name = tag := by
  rw [findAll, List.mem_filter, decide_eq_true_eq]

lemma mem_findAll_of_ne (h : e.name ≠ tag) {d : Element} :
    d ∈ e.findAll tag ↔ d ∈ e.inside ∧ d.name = tag := by
  rw [mem_findAll, descendants_eq, List.mem_cons]
  constructor
  · rintro ⟨rfl | hd, ht⟩
    · exact (h ht).elim
    · exact ⟨hd, ht⟩
  · rintro ⟨hd, ht⟩
    exact ⟨Or.inr hd, ht⟩

def gather (tag : String) (collect : Element → List α) (e : Element) : List α :=
  (e.findAll tag).flatMap collect

lemma gather_eq (tag : String) (collect : Element → List α) (e : Element) :
    e.gather tag collect =
      (if e.name = tag then collect e else []) ++ e.children.flatMap (gather tag collect) := by
  obtain ⟨name, attributes, children⟩ := e
  exact flatMap_findAll_node name attributes children tag collect

lemma gather_of_inside (h : ∀ d ∈ e.inside, d.name ≠ tag) :
    e.gather tag collect = if e.name = tag then collect e else [] := by
  have hf : e.inside.filter (fun d => d.name = tag) = [] := by simpa using h
  rw [gather, findAll, descendants_eq, List.filter_cons, hf]
  by_cases hn : e.name = tag
  · simp [hn]
  · simp [hn]

lemma gather_of_childless (h : e.children = []) :
    e.gather tag collect = if e.name = tag then collect e else [] := by
  rw [gather_eq, h, List.flatMap_nil, List.append_nil]

end Inside

namespace Pruned

variable {α : Type} {cut : Cut} {above : List Element} {es es' : List Element} {e e' : Element}
  {tag : String} {collect : Element → List α}

lemma single (h : Pruned cut above [e] [e']) :
    e'.name = e.name ∧ cut.leaves ⟨above, e⟩ e'.attributes ∧
      Pruned cut (above ++ [e]) e.children e'.children := by
  cases h with
  | drop _ hr => cases hr
  | keep hl hc _ => exact ⟨rfl, hl, hc⟩

lemma refl (h : ∀ p, cut.leaves p p.element.attributes) (above es : List Element) :
    Pruned cut above es es := by
  have hforest : ∀ above es : List Element,
      (∀ e ∈ es, ∀ above, Pruned cut above e.children e.children) → Pruned cut above es es := by
    intro above es hes
    induction es with
    | nil => exact .nil
    | cons e es ih =>
      obtain ⟨name, attributes, children⟩ := e
      have he := hes _ List.mem_cons_self (above ++ [⟨name, attributes, children⟩])
      exact .keep (h _) he (ih fun d hd => hes d (List.mem_cons_of_mem _ hd))
  have htree : ∀ (e : Element) (above : List Element), Pruned cut above e.children e.children := by
    intro e
    induction e using Element.induct with
    | node name attributes children ih => exact fun above => hforest above children ih
  exact hforest above es fun e _ => htree e

lemma android?_eq {drops : Placed → Prop} (h : Pruned (.ofElements drops) above [e] [e'])
    (name : String) : e'.android? name = e.android? name := by
  have ha : e'.attributes = e.attributes := h.single.2.1
  rw [android?, attribute?, ha]
  rfl

lemma gather_forest (h : Pruned cut above es es')
    (hdrop : ∀ more e, cut.drops ⟨above ++ more, e⟩ → e.gather tag collect = [])
    (hkeep : ∀ more e e', Pruned cut (above ++ more) [e] [e'] → e.name = tag →
      collect e' = collect e) :
    es'.flatMap (gather tag collect) = es.flatMap (gather tag collect) := by
  induction h with
  | nil => rfl
  | @drop above e rest rest' hd _ ih =>
    have hn := hdrop [] e (by simpa using hd)
    rw [List.flatMap_cons, hn, List.nil_append, ih hdrop hkeep]
  | @keep above name attributes attributes' children children' rest rest' hl hc _ ihc ihr =>
    -- one step further down, the elements above are those above and this one
    have hchildren := ihc
      (fun more e hd => hdrop (_ :: more) e (by simpa using hd))
      (fun more e e' hp => hkeep (_ :: more) e e' (by simpa using hp))
    have hnode : Pruned cut (above ++ []) [⟨name, attributes, children⟩]
        [⟨name, attributes', children'⟩] := by
      simpa using Pruned.keep hl hc .nil
    rw [List.flatMap_cons, List.flatMap_cons, ihr hdrop hkeep, gather_eq, hchildren,
      gather_eq tag collect ⟨name, attributes, children⟩]
    by_cases ht : name = tag
    · rw [if_pos ht, if_pos ht, hkeep [] _ _ hnode ht]
    · rw [if_neg ht, if_neg ht]

lemma gather (h : Pruned cut above [e] [e'])
    (hdrop : ∀ more d, cut.drops ⟨above ++ more, d⟩ → d.gather tag collect = [])
    (hkeep : ∀ more d d', Pruned cut (above ++ more) [d] [d'] → d.name = tag →
      collect d' = collect d) :
    e'.gather tag collect = e.gather tag collect := by
  simpa using h.gather_forest hdrop hkeep

end Pruned

end ApkAudit.Element
