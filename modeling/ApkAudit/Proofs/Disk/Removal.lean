import ApkAudit.Proofs.Disk.Subfolder

/-! Folders that can be removed with all that is in them, since every folder in them lets its
entries go.  What is put into such a folder leaves it one. -/

namespace ApkAudit

namespace Node

inductive Removable : Node → Prop
  | file (content : ByteArray) : Removable (.file content)
  | locked (size : Nat) : Removable (.locked size)
  | folder {entries : List (String × Node)} (below : ∀ entry ∈ entries, Removable entry.2) :
      Removable (.folder true entries)

variable {root : Node} {entries : List (String × Node)} {name : String} {node : Node}

lemma emptiedIn_of_emptied (h : ∀ entry ∈ entries, entry.2.emptied.2 = true) :
    emptiedIn true entries = ([], true) := by
  induction entries with
  | nil => rfl
  | cons entry rest ih =>
    obtain ⟨name, node⟩ := entry
    have hfirst : node.emptied.2 = true := h (name, node) List.mem_cons_self
    simp [emptiedIn, hfirst, ih fun other ho => h other (List.mem_cons_of_mem _ ho)]

namespace Removable

lemma emptied_snd (h : root.Removable) : root.emptied.2 = true := by
  induction h with
  | file content => rfl
  | locked size => rfl
  | folder below ih => simp [emptied, emptiedIn_of_emptied ih]

lemma lookup (h : (Node.folder true entries).Removable) (hl : entries.lookup name = some node) :
    node.Removable := by
  obtain ⟨before, after, he, _⟩ := List.lookup_eq_some_iff.mp hl
  cases h with
  | folder below => exact below (name, node) (by simp [he])

lemma setEntry (h : (Node.folder true entries).Removable) {value : Option Node}
    (hv : ∀ new, value = some new → new.Removable) :
    (Node.folder true (Node.setEntry name value entries)).Removable := by
  cases h with
  | folder below =>
    refine .folder fun entry he => ?_
    rcases mem_setEntry he with hm | ⟨_, hval⟩
    · exact below entry hm
    · exact hv entry.2 hval

lemma set (h : root.Removable) {value : Option Node}
    (hv : ∀ new, value = some new → new.Removable) (place : List String) :
    (root.set value place).Removable := by
  induction place generalizing root with
  | nil =>
    cases value with
    | none => exact h
    | some new => exact hv new rfl
  | cons name names ih =>
    cases h with
    | file content => exact .file content
    | locked size => exact .locked size
    | @folder entries below =>
      have hf : (Node.folder true entries).Removable := .folder below
      cases names with
      | nil => exact hf.setEntry hv
      | cons next names =>
        simp only [Node.set]
        split
        · next child hl =>
          refine hf.setEntry fun new hn => ?_
          rw [← Option.some.inj hn]
          exact ih (hf.lookup hl)
        · exact hf

lemma makeSteps (h : root.Removable) (place names : List String) :
    (Disk.makeSteps root place names).1.Removable := by
  induction names generalizing root place with
  | nil => exact h
  | cons step rest ih =>
    unfold Disk.makeSteps
    split
    · split
      · exact ih h _
      · split
        · split
          · refine ih (h.set (fun new hn => ?_) _) _
            rw [← Option.some.inj hn]
            exact .folder (by simp)
          · exact h
        · exact ih h _
        · exact h
    · exact h
    · exact h

end Removable

end Node

namespace Disk

variable {disk : Disk} {path name : String} {place : List String} {entries : List (String × Node)}
  {node : Node}

lemma removable_makeFolders (h : disk.root.Removable) (path : String) :
    (disk.makeFolders path).1.root.Removable := by
  unfold makeFolders
  split
  · exact h
  · exact h.makeSteps _ _

lemma removable_put (h : disk.root.Removable) (path : String) (content : Option ByteArray) :
    (disk.put path content).root.Removable := by
  cases content with
  | none => exact removable_makeFolders h path
  | some bytes =>
    have hm := removable_makeFolders h (parentPath path)
    rw [put_some]
    split
    · next made _ he => rwa [he] at hm
    · next made he =>
      rw [he] at hm
      split
      · refine hm.set (fun new hn => ?_) _
        rw [← Option.some.inj hn]
        exact .file bytes
      · exact hm

lemma removable_putAll (h : disk.root.Removable) (items : List (String × Option ByteArray)) :
    (disk.putAll items).root.Removable := by
  induction items generalizing disk with
  | nil => exact h
  | cons item items ih => exact ih (removable_put h item.1 item.2)

lemma removeFolder_child {writable : Bool} {inner : List (String × Node)}
    (h : LeadsTo disk path place (.folder true entries))
    (ho : Path.IsOrdinary name) (hl : entries.lookup name = some (.folder writable inner))
    (hr : (Node.folder writable inner).Removable) :
    disk.removeFolder (Path.join path name) =
      (disk.shrunk (disk.root.set none (place ++ [name])), none) := by
  have hres : disk.resolve (Path.join path name) = .ok (place ++ [name]) := by
    rw [h.resolve_child ho, hl]
    rfl
  unfold removeFolder
  rw [hres, Path.pieces_join path ho]
  simp only [h.find?_child, hl, hr.emptied_snd, List.getLast?_concat, Option.some.injEq, ho.2.2.1,
    ho.2.2.2, List.dropLast_concat, h.stands, Bool.not_true, Bool.false_eq_true, reduceCtorEq,
    if_false]

end Disk

end ApkAudit
