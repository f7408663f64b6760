import ApkAudit.Proofs.Disk.Subfolder

/-! When folders can be made along a path and a file be opened in the last of them: the path meets
no file, whatever is missing can be put into the folder around it, and no folder is needed at the
file's own place. -/

namespace ApkAudit.Node

variable {root : Node} {place other : List String} {entries : List (String × Node)} {name : String}
  {writable around : Bool}

end ApkAudit.Node

namespace ApkAudit.Disk

def Along (kind : List String → Prop) (place names : List String) : Prop :=
  ∀ front, front <+: names → kind (descend place front)

variable {disk : Disk} {root after : Node} {place names rest q : List String} {step : String}
  {kind : List String → Prop}

lemma Along.start (h : Along kind place names) : kind place :=
  h [] List.nil_prefix

section Steps

structure Extends (root : Node) (place : List String) (after : Node) : Prop where
  file?_eq : ∀ q, after.file? q = root.file? q
  folderAt_iff : ∀ writable q, after.FolderAt writable q ↔
    root.FolderAt writable q ∨ (writable = true ∧ q = place ∧ ¬ root.HasFolder place)

namespace Extends

lemma hasFolder_iff (h : Extends root place after) :
    after.HasFolder q ↔ root.HasFolder q ∨ q = place := by
  constructor
  · rintro ⟨writable, hf⟩
    exact ((h.folderAt_iff writable q).mp hf).imp (⟨writable, ·⟩) fun hq => hq.2.1
  · rintro (⟨writable, hf⟩ | rfl)
    · exact ⟨writable, (h.folderAt_iff writable q).mpr (.inl hf)⟩
    · by_cases hq : root.HasFolder q
      · obtain ⟨writable, hf⟩ := hq
        exact ⟨writable, (h.folderAt_iff writable q).mpr (.inl hf)⟩
      · exact ⟨true, (h.folderAt_iff true q).mpr (.inr ⟨rfl, rfl, hq⟩)⟩

lemma hasFolder (h : Extends root place after) : after.HasFolder place :=
  h.hasFolder_iff.mpr (.inr rfl)

end Extends

end Steps

section Files

variable {folder name : String} {entries : List (String × Node)} {writable : Bool}

end Files

end ApkAudit.Disk
