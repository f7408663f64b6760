import ApkAudit.Proofs.Code.Reference
import ApkAudit.Proofs.Detectors.Thinning

/-! The first item of each key: which keys there are and in which order, and that the items are the
first ones of their keys. -/

namespace ApkAudit.Detectors

open CodeIndex (addNew addNew_of_mem addNew_of_not_mem eraseDups_concat)

section Keys

variable {α κ : Type} [DecidableEq κ] (key : α → κ)

lemma firsts_append (kept items others : List α) :
    firsts key kept (items ++ others) = firsts key (firsts key kept items) others :=
  List.foldl_append

lemma firsts_concat_of_mem {kept items : List α} {item : α}
    (h : key item ∈ (firsts key kept items).map key) :
    firsts key kept (items ++ [item]) = firsts key kept items := by
  rw [firsts_append]
  refine if_pos (List.any_eq_true.mpr ?_)
  obtain ⟨other, ho, hk⟩ := List.mem_map.mp h
  exact ⟨other, ho, decide_eq_true hk⟩

lemma firsts_concat_of_not_mem {kept items : List α} {item : α}
    (h : key item ∉ (firsts key kept items).map key) :
    firsts key kept (items ++ [item]) = firsts key kept items ++ [item] := by
  rw [firsts_append]
  refine if_neg fun ha => h ?_
  obtain ⟨other, ho, hk⟩ := List.any_eq_true.mp ha
  exact List.mem_map.mpr ⟨other, ho, of_decide_eq_true hk⟩

lemma mem_map_firsts {kept items : List α} {k : κ} :
    k ∈ (firsts key kept items).map key ↔ k ∈ kept.map key ∨ k ∈ items.map key := by
  induction items using List.reverseRecOn with
  | nil => simp [firsts]
  | append_singleton items item ih =>
    by_cases h : key item ∈ (firsts key kept items).map key
    · rw [firsts_concat_of_mem key h, ih, List.map_append, List.mem_append, ← or_assoc,
        List.map_singleton, List.mem_singleton]
      refine (or_iff_left_of_imp ?_).symm
      rintro rfl
      exact ih.mp h
    · rw [firsts_concat_of_not_mem key h, List.map_append, List.mem_append, ih, List.map_append,
        List.mem_append, or_assoc]

lemma map_firsts (items : List α) : (firsts key [] items).map key = (items.map key).eraseDups := by
  induction items using List.reverseRecOn with
  | nil => rfl
  | append_singleton items item ih =>
    rw [List.map_append, List.map_singleton, eraseDups_concat, ← ih]
    by_cases h : key item ∈ (firsts key [] items).map key
    · rw [firsts_concat_of_mem key h, addNew_of_mem h]
    · rw [firsts_concat_of_not_mem key h, addNew_of_not_mem h, List.map_append, List.map_singleton]

lemma find?_of_mem_firsts {items : List α} {item : α} (h : item ∈ firsts key [] items) :
    items.find? (fun other => key other = key item) = some item := by
  induction items using List.reverseRecOn with
  | nil => cases h
  | append_singleton items last ih =>
    rw [List.find?_append]
    by_cases hl : key last ∈ (firsts key [] items).map key
    · rw [firsts_concat_of_mem key hl] at h
      rw [ih h, Option.some_or]
    · rw [firsts_concat_of_not_mem key hl, List.mem_append, List.mem_singleton] at h
      rcases h with h | rfl
      · rw [ih h, Option.some_or]
      · -- an item is added only if no item before it has its key
        have hn : items.find? (fun other => key other = key item) = none := by
          rw [List.find?_eq_none]
          intro other ho hk
          refine hl ((mem_map_firsts key).mpr (Or.inr ?_))
          exact List.mem_map.mpr ⟨other, ho, of_decide_eq_true hk⟩
        rw [hn]
        simp

end Keys

section Repetitions

variable {α β ι : Type} [DecidableEq α] [DecidableEq β]

lemma firsts_id (items : List α) : firsts id [] items = items.eraseDups := by
  have h := map_firsts id items
  rwa [List.map_id, List.map_id] at h

lemma firsts_map_eraseDups (f : α → β) (kept : List β) (items : List α) :
    firsts id kept (items.eraseDups.map f) = firsts id kept (items.map f) := by
  induction items using List.reverseRecOn with
  | nil => rfl
  | append_singleton items item ih =>
    rw [eraseDups_concat, List.map_append]
    by_cases h : item ∈ items.eraseDups
    · have hf : id (f item) ∈ (firsts id kept (items.map f)).map id := by
        rw [mem_map_firsts, List.map_id, List.map_id]
        exact Or.inr (List.mem_map_of_mem (List.mem_eraseDups.mp h))
      rw [addNew_of_mem h, ih, List.map_singleton, firsts_concat_of_mem id hf]
    · rw [addNew_of_not_mem h, List.map_append, firsts_append, ih, firsts_append]

lemma firsts_flatMap_eraseDups (f : α → β) (items : ι → List α) (kept : List β) (is : List ι) :
    firsts id kept ((is.flatMap fun i => (items i).eraseDups).map f) =
      firsts id kept ((is.flatMap items).map f) := by
  induction is generalizing kept with
  | nil => rfl
  | cons i is ih =>
    rw [List.flatMap_cons, List.flatMap_cons, List.map_append, List.map_append, firsts_append,
      firsts_append, ih, firsts_map_eraseDups]

lemma pairwise_idxOf_eraseDups (items : List α) :
    items.eraseDups.Pairwise fun a b => items.idxOf a < items.idxOf b := by
  induction items using List.reverseRecOn with
  | nil => exact List.Pairwise.nil
  | append_singleton items item ih =>
    have hmem : ∀ a ∈ items.eraseDups, (items ++ [item]).idxOf a = items.idxOf a := fun a ha =>
      List.idxOf_append_of_mem (List.mem_eraseDups.mp ha)
    have hkept : items.eraseDups.Pairwise fun a b =>
        (items ++ [item]).idxOf a < (items ++ [item]).idxOf b := by
      refine ih.imp_of_mem fun {a b} ha hb hab => ?_
      rwa [hmem a ha, hmem b hb]
    rw [eraseDups_concat]
    by_cases h : item ∈ items.eraseDups
    · rwa [addNew_of_mem h]
    · rw [addNew_of_not_mem h, List.pairwise_append]
      refine ⟨hkept, List.pairwise_singleton _ _, fun a ha b hb => ?_⟩
      obtain rfl := List.mem_singleton.mp hb
      have hb' : b ∉ items := fun hb => h (List.mem_eraseDups.mpr hb)
      rw [hmem a ha, List.idxOf_append_of_notMem hb']
      have hlt : items.idxOf a < items.length :=
        List.idxOf_lt_length_of_mem (List.mem_eraseDups.mp ha)
      omega

end Repetitions

end ApkAudit.Detectors
