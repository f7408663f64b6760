import ApkAudit.Proofs.Manifest.Placement
import Mathlib.Data.List.Lex
import Mathlib.Data.List.Sort

/-! The place of an element is the path of child indices that leads to it from the root.  In the
order of the document an element comes before those in it and before its later siblings, which is
the lexicographic order of paths.  A search for a tag passes the places with this tag in order. -/

namespace ApkAudit.Element

def atPath? (e : Element) : List Nat → Option Element
  | [] => some e
  | i :: path => e.children[i]?.bind fun child => child.atPath? path

mutual

def paths : Element → List (List Nat)
  | ⟨_, _, children⟩ => [] :: pathsIn 0 children

def pathsIn (start : Nat) : List Element → List (List Nat)
  | [] => []
  | child :: rest => child.paths.map (start :: ·) ++ pathsIn (start + 1) rest

end

section Paths

variable {children : List Element} {start : Nat}

lemma atPath?_cons_eq_some_iff {e d : Element} {i : Nat} {path : List Nat} :
    e.atPath? (i :: path) = some d ↔
      ∃ child, e.children[i]? = some child ∧ child.atPath? path = some d := by
  rw [atPath?, Option.bind_eq_some_iff]

lemma mem_pathsIn {path : List Nat} :
    path ∈ pathsIn start children ↔ ∃ i rest child,
      path = (start + i) :: rest ∧ children[i]? = some child ∧ rest ∈ child.paths := by
  induction children generalizing start with
  | nil => simp [pathsIn]
  | cons first children ih =>
    rw [pathsIn, List.mem_append, List.mem_map, ih]
    constructor
    · rintro (⟨rest, hr, rfl⟩ | ⟨i, rest, child, rfl, hc, hr⟩)
      · exact ⟨0, rest, first, rfl, rfl, hr⟩
      · exact ⟨i + 1, rest, child, by rw [Nat.add_right_comm]; rfl, hc, hr⟩
    · rintro ⟨_ | i, rest, child, rfl, hc, hr⟩
      · obtain rfl := Option.some.inj hc
        exact .inl ⟨rest, hr, rfl⟩
      · exact .inr ⟨i, rest, child, by rw [Nat.add_right_comm]; rfl, hc, hr⟩

lemma mem_paths {e : Element} {path : List Nat} :
    path ∈ e.paths ↔ ∃ d, e.atPath? path = some d := by
  induction e using induct generalizing path with
  | node name attributes children ih =>
    cases path with
    | nil => simp [paths, atPath?]
    | cons i path =>
      simp only [paths, List.mem_cons, reduceCtorEq, false_or, mem_pathsIn, Nat.zero_add,
        atPath?_cons_eq_some_iff]
      constructor
      · rintro ⟨_, _, child, he, hc, hr⟩
        obtain ⟨rfl, rfl⟩ := List.cons.inj he
        obtain ⟨d, hd⟩ := (ih child (List.mem_of_getElem? hc)).mp hr
        exact ⟨d, child, hc, hd⟩
      · rintro ⟨d, child, hc, hd⟩
        exact ⟨i, path, child, rfl, hc, (ih child (List.mem_of_getElem? hc)).mpr ⟨d, hd⟩⟩

lemma pairwise_pathsIn (h : ∀ child ∈ children, child.paths.Pairwise (List.Lex (· < ·))) :
    (pathsIn start children).Pairwise (List.Lex (· < ·)) := by
  induction children generalizing start with
  | nil => exact .nil
  | cons first children ih =>
    rw [pathsIn, List.pairwise_append]
    refine ⟨?_, ih fun child hc => h child (List.mem_cons_of_mem first hc), ?_⟩
    · exact List.pairwise_map.mpr ((h first List.mem_cons_self).imp .cons)
    · -- a later sibling has a larger index, whatever follows it in the path
      intro path hp later hl
      obtain ⟨rest, -, rfl⟩ := List.mem_map.mp hp
      obtain ⟨i, rest', child, rfl, -, -⟩ := mem_pathsIn.mp hl
      exact .rel (by omega)

lemma pairwise_paths (e : Element) : e.paths.Pairwise (List.Lex (· < ·)) := by
  induction e using induct with
  | node name attributes children ih =>
    rw [paths, List.pairwise_cons]
    refine ⟨fun path hp => ?_, pairwise_pathsIn ih⟩
    obtain ⟨i, rest, child, rfl, -, -⟩ := mem_pathsIn.mp hp
    exact .nil

-- The siblings come one by one here, and `reach` follows paths in their parent all the time.
lemma map_pathsIn {reach : List Nat → Option Element}
    (h : ∀ child ∈ children, child.paths.map child.atPath? = child.descendants.map some)
    (hr : ∀ i child, children[i]? = some child →
      ∀ path, reach ((start + i) :: path) = child.atPath? path) :
    (pathsIn start children).map reach = (descendantsIn children).map some := by
  induction children generalizing start with
  | nil => rfl
  | cons first children ih =>
    have hlater : ∀ i child, children[i]? = some child →
        ∀ path, reach ((start + 1 + i) :: path) = child.atPath? path := by
      intro i child hc path
      rw [Nat.add_right_comm]
      exact hr (i + 1) child hc path
    have hrest := ih (fun child hc => h child (List.mem_cons_of_mem first hc)) hlater
    have hfirst : reach ∘ (start :: ·) = first.atPath? := funext (hr 0 first rfl)
    rw [pathsIn, descendantsIn, List.map_append, List.map_append, List.map_map, hfirst,
      h first List.mem_cons_self, hrest]

lemma map_atPath?_paths (e : Element) : e.paths.map e.atPath? = e.descendants.map some := by
  induction e using induct with
  | node name attributes children ih =>
    have hreach : ∀ i child, children[i]? = some child → ∀ path,
        atPath? ⟨name, attributes, children⟩ ((0 + i) :: path) = child.atPath? path := by
      intro i child hc path
      rw [Nat.zero_add, atPath?, hc]
      rfl
    rw [paths, descendants, List.map_cons, List.map_cons, map_pathsIn ih hreach]
    rfl

end Paths

/-- A list passes, in the order of the document, the places of a tree where a wanted element stands,
each of them once. -/
structure InDocumentOrder (e : Element) (wanted : Element → Prop) (places : List (List Nat))
    (found : List Element) : Prop where
  reached : places.map e.atPath? = found.map some
  ascending : places.Pairwise (List.Lex (· < ·))
  mem_iff : ∀ path, path ∈ places ↔ ∃ d, e.atPath? path = some d ∧ wanted d

lemma InDocumentOrder.unique {e : Element} {wanted : Element → Prop}
    {places places' : List (List Nat)} {found found' : List Element}
    (h : e.InDocumentOrder wanted places found) (h' : e.InDocumentOrder wanted places' found') :
    found = found' := by
  -- an ascending list is determined by its members
  obtain rfl : places = places' := by
    apply h.ascending.eq_of_mem_iff h'.ascending
    intro path
    rw [h.mem_iff, h'.mem_iff]
  apply List.map_injective_iff.mpr (Option.some_injective Element)
  rw [← h.reached, h'.reached]

lemma inDocumentOrder_filter (e : Element) (wanted : Element → Bool) :
    e.InDocumentOrder (fun d => wanted d = true)
      (e.paths.filter fun path => (e.atPath? path).any wanted) (e.descendants.filter wanted) where
  reached := by
    have hp := List.filter_map (f := e.atPath?) (p := Option.any wanted) (l := e.paths)
    have hd := List.filter_map (f := some) (p := Option.any wanted) (l := e.descendants)
    rw [map_atPath?_paths] at hp
    exact hp.symm.trans hd
  ascending := (pairwise_paths e).filter _
  mem_iff path := by
    rw [List.mem_filter, mem_paths, Option.any_eq_true]
    constructor
    · rintro ⟨-, d, hd, hw⟩
      exact ⟨d, hd, hw⟩
    · rintro ⟨d, hd, hw⟩
      exact ⟨⟨d, hd⟩, d, hd, hw⟩

lemma foldl_withChild (e : Element) (children : List Element) :
    children.foldl withChild e = { e with children := e.children ++ children } := by
  induction children generalizing e with
  | nil =>
    obtain ⟨name, attributes, own⟩ := e
    simp
  | cons child children ih =>
    rw [List.foldl_cons, ih]
    simp [withChild]

/-- A search for a tag lists the elements with that tag in the order of the document, each place
once; so what it finds in an element is the element itself, if it has the tag, and then what it
finds in one child after the other. -/
theorem findAll_in_document_order (e : Element) (tag : String) :
    (∀ found, e.findAll tag = found ↔
        ∃ places, e.InDocumentOrder (fun d => d.name = tag) places found) ∧
      ∀ children : List Element, (children.foldl withChild e).findAll tag =
        (if e.name = tag then [children.foldl withChild e] else []) ++
          (e.children ++ children).flatMap (findAll tag) := by
  have hfound := inDocumentOrder_filter e fun d => d.name = tag
  simp only [decide_eq_true_eq] at hfound
  refine ⟨fun found => ⟨?_, ?_⟩, fun children => ?_⟩
  · rintro rfl
    exact ⟨_, hfound⟩
  · rintro ⟨places, h⟩
    exact hfound.unique h
  · rw [foldl_withChild, findAll_node]

end ApkAudit.Element
