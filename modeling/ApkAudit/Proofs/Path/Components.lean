import ApkAudit.Disk.Path
import ApkAudit.Proofs.Text.Scan

/-! Joining an ordinary name to a path adds one component.  The stem of a path is such a name,
unless the file name consists of two or three dots and an extension. -/

namespace ApkAudit.Path

def IsOrdinary (name : String) : Prop :=
  name ≠ "" ∧ '/' ∉ name.toList ∧ name ≠ "." ∧ name ≠ ".."

instance (name : String) : Decidable (IsOrdinary name) :=
  inferInstanceAs (Decidable (_ ∧ _ ∧ _ ∧ _))

lemma pieces_append (base name : String) :
    pieces (base ++ "/" ++ name) = pieces base ++ pieces name := by
  have h : (base ++ "/" ++ name).toList = base.toList ++ '/' :: name.toList := by simp
  simp only [pieces, Text.split, h, Text.splitChar_append, List.map_append, List.filter_append]

@[simp] lemma pieces_empty : pieces "" = [] := rfl

lemma pieces_of_ordinary {name : String} (h : IsOrdinary name) : pieces name = [name] := by
  simp [pieces, Text.split, Text.splitChar_of_not_mem h.2.1, h.1]

lemma isAbsolute_of_ordinary {name : String} (h : IsOrdinary name) : isAbsolute name = false := by
  simp only [isAbsolute, decide_eq_false_iff_not]
  intro hh
  exact h.2.1 (List.mem_of_mem_head? hh)

lemma pieces_join_relative (base : String) {path : String} (h : isAbsolute path = false) :
    pieces (join base path) = pieces base ++ pieces path := by
  unfold join
  rw [h]
  simp only [Bool.false_eq_true, if_false]
  split
  · next hb =>
    have he : base = "" := String.toList_inj.mp (by simpa using hb)
    rw [he, pieces_empty, List.nil_append]
  · split
    · next hl =>
      obtain ⟨front, hf⟩ := List.getLast?_eq_some_iff.mp hl
      have he : base = String.ofList front ++ "/" ++ "" := String.toList_inj.mp (by simp [hf])
      have hn : base ++ path = String.ofList front ++ "/" ++ path := by
        simp [he, String.append_assoc]
      rw [hn, pieces_append, he, pieces_append, pieces_empty, List.append_nil]
    · rw [pieces_append]

lemma pieces_join (base : String) {name : String} (h : IsOrdinary name) :
    pieces (join base name) = pieces base ++ [name] := by
  rw [pieces_join_relative base (isAbsolute_of_ordinary h), pieces_of_ordinary h]

lemma isAbsolute_join_relative (base : String) {path : String} (h : isAbsolute path = false) :
    isAbsolute (join base path) = isAbsolute base := by
  unfold join
  rw [h]
  simp only [Bool.false_eq_true, if_false]
  split
  · next hb => rw [h, isAbsolute, hb]; rfl
  · next hb =>
    obtain ⟨c, cs, hc⟩ := List.exists_cons_of_ne_nil hb
    split <;> simp [isAbsolute, hc]

lemma isAbsolute_join (base : String) {name : String} (h : IsOrdinary name) :
    isAbsolute (join base name) = isAbsolute base :=
  isAbsolute_join_relative base (isAbsolute_of_ordinary h)

lemma components_join (base : String) {name : String} (h : IsOrdinary name) :
    components (join base name) = components base ++ [.name name] := by
  have hc : Component.ofPiece name = .name name := by simp [Component.ofPiece, h.2.2.1, h.2.2.2]
  unfold components
  rw [pieces_join base h, isAbsolute_join base h, List.map_append, List.map_singleton, hc]
  generalize (pieces base).map Component.ofPiece = parts
  split
  · simp
  · cases parts with
    | nil => simp
    | cons part parts => cases part <;> simp

lemma mem_components {path : String} {c : Component} (h : c ∈ components path) :
    c = .root ∨ ∃ piece ∈ pieces path, c = .ofPiece piece := by
  have hparts : ∀ d ∈ (pieces path).map Component.ofPiece,
      ∃ piece ∈ pieces path, d = .ofPiece piece := by
    intro d hd
    obtain ⟨piece, hp, rfl⟩ := List.mem_map.mp hd
    exact ⟨piece, hp, rfl⟩
  unfold components at h
  dsimp only at h
  split at h
  · rcases List.mem_cons.mp h with h | h
    · exact Or.inl h
    · exact Or.inr (hparts c (List.mem_filter.mp h).1)
  · split at h
    · next rest hr =>
      rw [hr] at hparts
      rcases List.mem_cons.mp h with h | h
      · exact Or.inr (hparts c (by simp [h]))
      · exact Or.inr (hparts c (List.mem_cons_of_mem _ (List.mem_filter.mp h).1))
    · exact Or.inr (hparts c (List.mem_filter.mp h).1)

lemma ordinary_of_fileName? {path name : String} (h : fileName? path = some name) :
    IsOrdinary name := by
  have hc : (components path).getLast? = some (.name name) := by
    unfold fileName? at h
    split at h
    · next text hl => rw [hl, Option.some.inj h]
    · cases h
  rcases mem_components (List.mem_of_getLast? hc) with hr | ⟨piece, hp, he⟩
  · cases hr
  · obtain ⟨hs, hne⟩ := List.mem_filter.mp hp
    obtain ⟨cs, hcs, rfl⟩ := List.mem_map.mp hs
    unfold Component.ofPiece at he
    split at he
    · cases he
    · next h₁ =>
      split at he
      · cases he
      · next h₂ =>
        obtain rfl := Component.name.inj he
        refine ⟨by simpa using hne, ?_, h₁, h₂⟩
        simpa using Text.not_mem_of_mem_splitChar hcs

lemma splitExtension_append {before after : List Char} (hb : before ≠ []) (ha : '.' ∉ after) :
    splitExtension (String.ofList (before ++ '.' :: after)) =
      (String.ofList before, some (String.ofList after)) := by
  obtain ⟨b, bs, hr⟩ := List.exists_cons_of_ne_nil (List.reverse_ne_nil_iff.mpr hb)
  have hp := Text.ne_of_not_mem (mt List.mem_reverse.mp ha)
  have hrev : (before ++ '.' :: after).reverse = after.reverse ++ '.' :: before.reverse := by simp
  simp only [splitExtension, String.toList_ofList, hrev]
  rw [Text.takeWhile_stop hp rfl, Text.dropWhile_stop hp rfl, hr]
  simp [← hr]

lemma splitExtension_cases (name : String) :
    (splitExtension name).1 = name ∨ ∃ before after : List Char, before ≠ [] ∧ '.' ∉ after ∧
      name = String.ofList (before ++ '.' :: after) ∧
      (splitExtension name).1 = String.ofList before := by
  by_cases hd : '.' ∈ name.toList.reverse
  · obtain ⟨as, bs, he, ha⟩ := List.eq_append_cons_of_mem hd
    have hn : name = String.ofList (bs.reverse ++ '.' :: as.reverse) := by
      apply String.toList_inj.mp
      rw [String.toList_ofList, ← List.reverse_inj, he]
      simp
    by_cases hb : bs = []
    · left
      simp only [splitExtension, he, hb]
      rw [Text.dropWhile_stop (Text.ne_of_not_mem ha) rfl]
    · right
      have hb' : bs.reverse ≠ [] := by simpa using hb
      have ha' : '.' ∉ as.reverse := by simpa using ha
      refine ⟨bs.reverse, as.reverse, hb', ha', hn, ?_⟩
      conv_lhs => rw [hn, splitExtension_append hb' ha']
  · left
    simp only [splitExtension]
    rw [List.dropWhile_eq_nil_iff.mpr (Text.ne_of_not_mem hd)]

/-- The file name is two or three dots and an extension: without it only dots are left. -/
def StemOfDots (path : String) : Prop :=
  ∃ extension : String, '.' ∉ extension.toList ∧
    (fileName? path = some (".." ++ extension) ∨ fileName? path = some ("..." ++ extension))

lemma stem?_of_dots {path : String} (h : StemOfDots path) :
    stem? path = some "." ∨ stem? path = some ".." := by
  obtain ⟨extension, he, hf | hf⟩ := h
  · have hs : ".." ++ extension = String.ofList (['.'] ++ '.' :: extension.toList) :=
      String.toList_inj.mp (by simp)
    left
    rw [stem?, hf, Option.map_some, hs, splitExtension_append (by simp) he]
  · have hs : "..." ++ extension = String.ofList (['.', '.'] ++ '.' :: extension.toList) :=
      String.toList_inj.mp (by simp)
    right
    rw [stem?, hf, Option.map_some, hs, splitExtension_append (by simp) he]

lemma ordinary_of_stem? {path stem : String} (hs : stem? path = some stem)
    (h : ¬ StemOfDots path) : IsOrdinary stem := by
  obtain ⟨name, hf, he⟩ := Option.map_eq_some_iff.mp hs
  have ho := ordinary_of_fileName? hf
  rcases splitExtension_cases name with hn | ⟨before, after, hb, ha, hn, hst⟩
  · rwa [← he, hn]
  · rw [hst] at he
    subst he
    have hslash : '/' ∉ before := by
      have := ho.2.1
      rw [hn] at this
      simp_all
    refine ⟨fun h₀ => hb (by simpa using congrArg String.toList h₀), by simpa using hslash, ?_, ?_⟩
    · intro h₁
      have hb₁ : before = ['.'] := by simpa using congrArg String.toList h₁
      refine h ⟨String.ofList after, by simpa using ha, Or.inl ?_⟩
      rw [hf, hn, hb₁]
      congr 1
      exact String.toList_inj.mp (by simp)
    · intro h₂
      have hb₂ : before = ['.', '.'] := by simpa using congrArg String.toList h₂
      refine h ⟨String.ofList after, by simpa using ha, Or.inr ?_⟩
      rw [hf, hn, hb₂]
      congr 1
      exact String.toList_inj.mp (by simp)

end ApkAudit.Path
