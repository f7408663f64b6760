import ApkAudit.Manifest.Element
import Mathlib.Data.List.Basic

/-! The elements of a tree in document order, each with the elements around it. -/

namespace ApkAudit.Element

theorem induct {motive : Element → Prop}
    (node : ∀ name attributes children, (∀ child ∈ children, motive child) →
      motive ⟨name, attributes, children⟩) (e : Element) : motive e := by
  refine @Element.rec motive (fun children => ∀ child ∈ children, motive child) node ?_ ?_ e
  · intro child hc
    cases hc
  · intro first rest hf hr child hc
    rcases List.mem_cons.mp hc with rfl | hc
    · exact hf
    · exact hr child hc

variable (name : String) (attributes : List Xml.Attribute) (children : List Element)

lemma descendantsIn_eq_flatMap : descendantsIn children = children.flatMap descendants := by
  induction children with
  | nil => rfl
  | cons child children ih => rw [descendantsIn, ih, List.flatMap_cons]

lemma findAll_node (tag : String) : findAll tag ⟨name, attributes, children⟩ =
    (if name = tag then [⟨name, attributes, children⟩] else []) ++
      children.flatMap (findAll tag) := by
  rw [findAll, descendants, descendantsIn_eq_flatMap, List.filter_cons, List.filter_flatMap]
  by_cases hn : name = tag
  · simp only [hn, decide_true, if_true, List.singleton_append]
    rfl
  · simp only [hn, decide_false, if_false, List.nil_append, Bool.false_eq_true]
    rfl

lemma flatMap_findAll_node {α : Type} (tag : String) (collect : Element → List α) :
    (findAll tag ⟨name, attributes, children⟩).flatMap collect =
      (if name = tag then collect ⟨name, attributes, children⟩ else []) ++
        children.flatMap fun child => (child.findAll tag).flatMap collect := by
  rw [findAll_node, List.flatMap_append, List.flatMap_assoc]
  split <;> simp

structure Placed where
  above : List Element
  element : Element

mutual

def placed (above : List Element) : Element → List Placed
  | ⟨name, attributes, children⟩ =>
    ⟨above, ⟨name, attributes, children⟩⟩ ::
      placedIn (above ++ [⟨name, attributes, children⟩]) children

def placedIn (above : List Element) : List Element → List Placed
  | [] => []
  | child :: rest => child.placed above ++ placedIn above rest

end

lemma placedIn_eq_flatMap (above : List Element) :
    placedIn above children = children.flatMap (placed above) := by
  induction children with
  | nil => rfl
  | cons child children ih => rw [placedIn, ih, List.flatMap_cons]

lemma placed_node (above : List Element) : placed above ⟨name, attributes, children⟩ =
    ⟨above, ⟨name, attributes, children⟩⟩ ::
      children.flatMap (placed (above ++ [⟨name, attributes, children⟩])) := by
  rw [placed, placedIn_eq_flatMap]

end ApkAudit.Element
