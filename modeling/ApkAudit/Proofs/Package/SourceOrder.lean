import ApkAudit.Package.Decoded
import ApkAudit.Proofs.Disk.Below
import ApkAudit.Proofs.Disk.Enumeration
import ApkAudit.Proofs.Smali.SourceLog
import ApkAudit.Proofs.Text.Scan
import Mathlib.Data.String.Basic

/-! The code of a decoded folder is indexed in the order of the paths of its sources.  The order in
which the disk lists the entries of folders has no influence. -/

namespace ApkAudit

lemma Path.namesBefore_eq_true_iff (as bs : List String) :
    Path.namesBefore as bs = true ↔ as < bs := by
  induction as generalizing bs with
  | nil => cases bs <;> simp [Path.namesBefore]
  | cons a as ih =>
    cases bs with
    | nil => simp [Path.namesBefore]
    | cons b bs => simp [Path.namesBefore, ih, List.cons_lt_cons_iff]

namespace Package

variable {writable : Bool} {entries : List (String × Node)} {names : List String}

section Sorting

variable {files files' : List (List String × Option ByteArray)}

def sortedByPath (files : List (List String × Option ByteArray)) :
    List (List String × Option ByteArray) :=
  files.mergeSort fun a b => !Path.namesBefore b.1 a.1

lemma pairwise_sortedByPath (files : List (List String × Option ByteArray)) :
    (sortedByPath files).Pairwise fun a b => a.1 ≤ b.1 := by
  have hle : ∀ a b : List String × Option ByteArray,
      (!Path.namesBefore b.1 a.1) = true ↔ a.1 ≤ b.1 := by
    intro a b
    rw [Bool.not_eq_true', ← Bool.not_eq_true, Path.namesBefore_eq_true_iff, not_lt]
  have hs : (sortedByPath files).Pairwise fun a b => (!Path.namesBefore b.1 a.1) = true := by
    apply List.pairwise_mergeSort
    · intro a b c hab hbc
      rw [hle] at hab hbc ⊢
      exact hab.trans hbc
    · intro a b
      rw [Bool.or_eq_true, hle, hle]
      exact le_total a.1 b.1
  exact hs.imp fun {a b} h => (hle a b).mp h

lemma sortedByPath_eq_of_perm (hp : files.Perm files') (hn : (files.map Prod.fst).Nodup) :
    sortedByPath files = sortedByPath files' := by
  have hsort : (sortedByPath files).Perm files := List.mergeSort_perm files _
  have hsort' : (sortedByPath files').Perm files' := List.mergeSort_perm files' _
  apply List.Perm.eq_of_pairwise ?_ (pairwise_sortedByPath files) (pairwise_sortedByPath files')
    ((hsort.trans hp).trans hsort'.symm)
  intro a b ha hb hab hba
  have hb' : b ∈ files := hp.mem_iff.mpr (hsort'.mem_iff.mp hb)
  exact List.inj_on_of_nodup_map hn (hsort.mem_iff.mp ha) hb' (le_antisymm hab hba)

lemma pairwise_lt_sortedByPath (hn : (files.map Prod.fst).Nodup) :
    (sortedByPath files).Pairwise fun a b => a.1 < b.1 := by
  have hsort : (sortedByPath files).Perm files := List.mergeSort_perm files _
  have hne : (sortedByPath files).Pairwise fun a b => a.1 ≠ b.1 :=
    List.pairwise_map.mp ((hsort.map Prod.fst).nodup_iff.mpr hn)
  exact (pairwise_sortedByPath files).imp₂ (fun a b hle h => lt_of_le_of_ne hle h) hne

end Sorting

section Folders

def codeFolders (entries : List (String × Node)) : List (String × Node) :=
  entries.filter fun (name, node) => node.isFolder && isCodeFolder name

def codeFiles (entries : List (String × Node)) : List (List String × Option ByteArray) :=
  (Node.filesIn (codeFolders entries)).filter fun (names, _) => isSource names

lemma sourceFiles_eq (entries : List (String × Node)) :
    sourceFiles entries = sortedByPath (codeFiles entries) := rfl

lemma isCodeFolder_iff {name : String} :
    isCodeFolder name = true ↔ name = "smali" ∨ "smali_classes".toList <+: name.toList := by
  have hd : (Text.dropStart? "smali_classes".toList name.toList).isSome = true ↔
      "smali_classes".toList <+: name.toList := by
    constructor
    · intro hs
      by_contra hp
      rw [Text.dropStart?_eq_none hp] at hs
      cases hs
    · rintro ⟨rest, hr⟩
      rw [← hr, Text.dropStart?_append]
      rfl
  rw [isCodeFolder, Bool.or_eq_true, beq_iff_eq, hd]

lemma mem_filesIn_codeFolders (h : Node.Distinct (.folder writable entries))
    {content : Option ByteArray} :
    (names, content) ∈ Node.filesIn (codeFolders entries) ↔
      (∃ top below, names = top :: below ∧ below ≠ [] ∧ isCodeFolder top = true) ∧
        ((Node.folder true entries).find? names).bind Node.content? = some content := by
  have hfind : ∀ {name child names}, (name, child) ∈ entries →
      (Node.folder true entries).find? (name :: names) = child.find? names := by
    intro name child names hm
    simp only [Node.find?, Node.entry?, (Node.lookup_eq_some_iff_mem h.nodup).mpr hm]
  rw [Node.filesIn_eq_flatMap, List.mem_flatMap]
  constructor
  · rintro ⟨⟨top, child⟩, he, hf⟩
    obtain ⟨hm, hc⟩ := List.mem_filter.mp he
    obtain ⟨hfolder, htop⟩ := Bool.and_eq_true_iff.mp hc
    obtain ⟨⟨path, bytes⟩, hp, heq⟩ := List.mem_map.mp hf
    obtain ⟨rfl, rfl⟩ := Prod.mk.inj heq
    have hpath := (Node.mem_files (h.of_mem hm)).mp hp
    refine ⟨⟨top, path, rfl, ?_, htop⟩, by rw [hfind hm, hpath]⟩
    -- the subfolder is no file itself, so the path goes on below it
    rintro rfl
    cases child with
    | folder writable below => cases hpath
    | file content => cases hfolder
    | locked size => cases hfolder
  · rintro ⟨⟨top, below, rfl, hne, htop⟩, hf⟩
    obtain ⟨next, below, rfl⟩ := List.exists_cons_of_ne_nil hne
    obtain ⟨node, hnode, hcontent⟩ := Option.bind_eq_some_iff.mp hf
    obtain ⟨_, _, child, heq, hl, hchild⟩ := Node.find?_cons_some hnode
    obtain ⟨_, rfl⟩ := Node.folder.inj heq
    obtain ⟨_, inner, _, rfl, _, _⟩ := Node.find?_cons_some hchild
    have hm := (Node.lookup_eq_some_iff_mem h.nodup).mp hl
    refine ⟨_, List.mem_filter.mpr ⟨hm, by simpa [Node.isFolder] using htop⟩, ?_⟩
    apply List.mem_map.mpr
    refine ⟨(next :: below, content), (Node.mem_files (h.of_mem hm)).mpr ?_, rfl⟩
    rw [hchild, Option.bind_some, hcontent]

lemma isSource_concat (names : List String) (file : String) :
    isSource (names ++ [file]) = true ↔ Path.extension? file = some "smali" := by
  rw [isSource, List.getLast?_concat, beq_iff_eq]

lemma mem_codeFiles (h : Node.Distinct (.folder writable entries)) {content : Option ByteArray} :
    (names, content) ∈ codeFiles entries ↔
      (∃ top below file, names = top :: (below ++ [file]) ∧
        (top = "smali" ∨ "smali_classes".toList <+: top.toList) ∧
        Path.extension? file = some "smali") ∧
      ((Node.folder true entries).find? names).bind Node.content? = some content := by
  rw [codeFiles, List.mem_filter, mem_filesIn_codeFolders h]
  constructor
  · rintro ⟨⟨⟨top, path, rfl, hne, htop⟩, hf⟩, hs⟩
    obtain ⟨below, file, rfl⟩ := (List.eq_nil_or_concat' path).resolve_left hne
    exact ⟨⟨top, below, file, rfl, isCodeFolder_iff.mp htop,
      (isSource_concat (top :: below) file).mp hs⟩, hf⟩
  · rintro ⟨⟨top, below, file, rfl, htop, hs⟩, hf⟩
    exact ⟨⟨⟨top, _, rfl, by simp, isCodeFolder_iff.mpr htop⟩, hf⟩,
      (isSource_concat (top :: below) file).mpr hs⟩

lemma nodup_codeFiles (h : Node.Distinct (.folder writable entries)) :
    ((codeFiles entries).map Prod.fst).Nodup := by
  have hs : (codeFolders entries).Sublist entries := List.filter_sublist
  have hd : Node.Distinct (.folder true (codeFolders entries)) :=
    .folder (h.nodup.sublist (hs.map Prod.fst)) fun entry he => h.of_mem (hs.subset he)
  exact (Node.nodup_files hd).sublist (List.filter_sublist.map Prod.fst)

lemma perm_codeFiles (e : Enumeration) (place : List String) (entries : List (String × Node)) :
    (codeFiles entries).Perm
      (codeFiles (e.order place (Node.enumeratedIn e place entries))) := by
  have hfolders : codeFolders (Node.enumeratedIn e place entries) =
      Node.enumeratedIn e place (codeFolders entries) := by
    simp only [codeFolders, Node.enumeratedIn_eq_map, List.filter_map, Function.comp_def,
      Node.isFolder_enumerated]
  have horder : (codeFolders (e.order place (Node.enumeratedIn e place entries))).Perm
      (Node.enumeratedIn e place (codeFolders entries)) := by
    rw [← hfolders]
    exact (e.perm place _).filter _
  have hfiles :=
    (Node.perm_filesIn horder).trans (Node.perm_filesIn_enumeratedIn e place (codeFolders entries))
  exact (hfiles.filter _).symm

lemma sourceFiles_enumerated (e : Enumeration) (place : List String)
    (h : Node.Distinct (.folder writable entries)) :
    sourceFiles (e.order place (Node.enumeratedIn e place entries)) = sourceFiles entries := by
  rw [sourceFiles_eq, sourceFiles_eq]
  exact (sortedByPath_eq_of_perm (perm_codeFiles e place entries) (nodup_codeFiles h)).symm

end Folders

/-- A source that can be read: a file at any depth in a subfolder for code, with the extension of
sources, that holds a text. -/
def SourceAt (entries : List (String × Node)) (names : List String) (text : String) : Prop :=
  ∃ top below file content, names = top :: (below ++ [file]) ∧
    (top = "smali" ∨ "smali_classes".toList <+: top.toList) ∧
    Path.extension? file = some "smali" ∧
    (Node.folder true entries).find? names = some (.file content) ∧
    Text.decodeUtf8? content = some text

structure SourcesInOrder (entries : List (String × Node)) (sources : List (List String × String)) :
    Prop where
  ascending : sources.Pairwise fun a b => a.1 < b.1
  mem_iff : ∀ names text, (names, text) ∈ sources ↔ SourceAt entries names text

section Reading

lemma nodup_of_ascending {sources : List (List String × String)}
    (h : sources.Pairwise fun a b => a.1 < b.1) : sources.Nodup := by
  refine h.imp fun {a b} hlt heq => ?_
  rw [heq] at hlt
  exact lt_irrefl _ hlt

lemma SourcesInOrder.unique {sources sources' : List (List String × String)}
    (h : SourcesInOrder entries sources) (h' : SourcesInOrder entries sources') :
    sources = sources' := by
  have hp : sources.Perm sources' := by
    rw [List.perm_ext_iff_of_nodup (nodup_of_ascending h.ascending)
      (nodup_of_ascending h'.ascending)]
    rintro ⟨names, text⟩
    rw [h.mem_iff, h'.mem_iff]
  apply List.Perm.eq_of_pairwise ?_ h.ascending h'.ascending hp
  intro a b _ _ hab hba
  exact (lt_asymm hab hba).elim

def readable? (file : List String × Option ByteArray) : Option (List String × String) :=
  (sourceText file.2).toOption.map fun text => (file.1, text)

lemma readable?_eq_some_iff {file : List String × Option ByteArray} {text : String} :
    readable? file = some (names, text) ↔
      file.1 = names ∧ ∃ content, file.2 = some content ∧ Text.decodeUtf8? content = some text := by
  obtain ⟨path, content⟩ := file
  cases content with
  | none => simp [readable?, sourceText, Except.toOption]
  | some bytes =>
    cases hd : Text.decodeUtf8? bytes with
    | none => simp [readable?, sourceText, Disk.textOf, hd, Except.toOption]
    | some decoded => simp [readable?, sourceText, Disk.textOf, hd, Except.toOption]

lemma value_indexSources (folder : String) (index : CodeIndex)
    (files : List (List String × Option ByteArray)) :
    (indexSources folder index files).value =
      ((files.filterMap readable?).map Prod.snd).foldl CodeIndex.addSource index := by
  induction files generalizing index with
  | nil => rfl
  | cons file rest ih =>
    obtain ⟨path, content⟩ := file
    rw [indexSources, List.filterMap_cons, readable?]
    cases sourceText content with
    | error e => exact ih index
    | ok text => exact ih (index.addSource text)

lemma bind_content?_eq_some_iff {found : Option Node} {bytes : ByteArray} :
    found.bind Node.content? = some (some bytes) ↔ found = some (.file bytes) := by
  cases found with
  | none => simp
  | some node => cases node <;> simp [Node.content?]

lemma mem_readable (h : Node.Distinct (.folder writable entries)) (names : List String)
    (text : String) :
    (names, text) ∈ (sourceFiles entries).filterMap readable? ↔ SourceAt entries names text := by
  have hperm : (sortedByPath (codeFiles entries)).Perm (codeFiles entries) :=
    List.mergeSort_perm _ _
  rw [List.mem_filterMap, sourceFiles_eq]
  constructor
  · rintro ⟨⟨path, content⟩, hm, hr⟩
    obtain ⟨rfl, bytes, rfl, htext⟩ := readable?_eq_some_iff.mp hr
    obtain ⟨⟨top, below, file, rfl, htop, hs⟩, hf⟩ := (mem_codeFiles h).mp (hperm.mem_iff.mp hm)
    exact ⟨top, below, file, bytes, rfl, htop, hs, bind_content?_eq_some_iff.mp hf, htext⟩
  · rintro ⟨top, below, file, bytes, rfl, htop, hs, hf, htext⟩
    have hm := (mem_codeFiles h).mpr
      ⟨⟨top, below, file, rfl, htop, hs⟩, bind_content?_eq_some_iff.mpr hf⟩
    exact ⟨_, hperm.mem_iff.mpr hm, readable?_eq_some_iff.mpr ⟨rfl, bytes, rfl, htext⟩⟩

lemma sourcesInOrder_readable (h : Node.Distinct (.folder writable entries)) :
    SourcesInOrder entries ((sourceFiles entries).filterMap readable?) where
  ascending := by
    have hs := pairwise_lt_sortedByPath (nodup_codeFiles h)
    rw [sourceFiles_eq]
    apply hs.filterMap
    rintro a b hlt ⟨names, text⟩ ha ⟨names', text'⟩ hb
    obtain ⟨rfl, _⟩ := readable?_eq_some_iff.mp ha
    obtain ⟨rfl, _⟩ := readable?_eq_some_iff.mp hb
    exact hlt
  mem_iff := mem_readable h

variable {disk : Disk} {folder : String}

lemma value_readCode (hf : disk.get folder = .ok (.folder writable entries)) :
    (readCode disk folder).value = .ok (CodeIndex.ofSources
      (((sourceFiles entries).filterMap readable?).map Prod.snd)) := by
  rw [readCode, hf]
  simp only [Logged.value_bind, Logged.value_pure, value_indexSources]
  rfl

lemma readCode_enumerated (e : Enumeration) (h : disk.root.Distinct)
    (folder : String) : readCode (disk.enumerated e) folder = readCode disk folder := by
  obtain ⟨place, hg⟩ := disk.get_enumerated e h folder
  rw [readCode, readCode, hg]
  cases hf : disk.get folder with
  | error problem => rfl
  | ok node =>
    cases node with
    | file content => rfl
    | locked size => rfl
    | folder writable entries =>
      have hd := disk.distinct_of_get h hf
      simp only [Except.map, Node.enumerated, sourceFiles_enumerated e place hd]

end Reading

/-- Whatever order the folders of a disk list their entries in, the code of a decoded folder is
read the same way: the index is that of the sources that can be read, one after the other in the
order of their paths. -/
theorem readCode_by_path (disk : Disk) (h : disk.root.Distinct) (folder : String)
    (writable : Bool) (entries : List (String × Node))
    (hf : disk.get folder = .ok (.folder writable entries)) :
    (∃ sources, SourcesInOrder entries sources) ∧
      ∀ sources, SourcesInOrder entries sources → ∀ e e' : Enumeration,
        (readCode (disk.enumerated e) folder).value =
            .ok (CodeIndex.ofSources (sources.map Prod.snd)) ∧
          readCode (disk.enumerated e) folder = readCode (disk.enumerated e') folder := by
  have hsources := sourcesInOrder_readable (disk.distinct_of_get h hf)
  refine ⟨⟨_, hsources⟩, fun sources hs e e' => ?_⟩
  rw [readCode_enumerated e h, readCode_enumerated e' h, value_readCode hf, hs.unique hsources]
  exact ⟨rfl, rfl⟩

def scattered : List (String × Node) :=
  [("smali_classes2", .folder true
      [("b.smali", .file "".toUTF8), ("a", .folder false [("c.smali", .locked 3)])]),
    ("res", .folder true [("d.smali", .file "".toUTF8)]),
    ("smali", .folder true [("e.smali", .file ⟨#[255]⟩), ("d.smali", .file ".class LA;".toUTF8)])]

def lastFirst : Enumeration where
  order _ entries := entries.reverse
  perm _ entries := List.reverse_perm entries

def scatteredDisk : Disk where
  root := .folder true [("work", .folder true [("app", .folder true scattered)])]

lemma distinct_scattered : scatteredDisk.root.Distinct := by
  refine .folder (by decide) fun entry he => ?_
  obtain rfl := List.mem_singleton.mp he
  refine .folder (by decide) fun entry he => ?_
  obtain rfl := List.mem_singleton.mp he
  refine .folder (by decide) fun entry he => ?_
  simp only [scattered, List.mem_cons, List.not_mem_nil, or_false] at he
  rcases he with rfl | rfl | rfl
  · refine .folder (by decide) fun entry he => ?_
    simp only [List.mem_cons, List.not_mem_nil, or_false] at he
    rcases he with rfl | rfl
    · exact .file _
    · refine .folder (by decide) fun entry he => ?_
      obtain rfl := List.mem_singleton.mp he
      exact .locked 3
  · refine .folder (by decide) fun entry he => ?_
    obtain rfl := List.mem_singleton.mp he
    exact .file _
  · refine .folder (by decide) fun entry he => ?_
    simp only [List.mem_cons, List.not_mem_nil, or_false] at he
    rcases he with rfl | rfl
    · exact .file _
    · exact .file _

theorem readCode_by_path_scattered :
    scatteredDisk.root.Distinct ∧ scatteredDisk.get "app" = .ok (.folder true scattered) ∧
      ∃ sources, SourcesInOrder scattered sources ∧
        (readCode (scatteredDisk.enumerated lastFirst) "app").value =
          .ok (CodeIndex.ofSources (sources.map Prod.snd)) := by
  have hf : scatteredDisk.get "app" = .ok (.folder true scattered) := rfl
  obtain ⟨⟨sources, hs⟩, hread⟩ :=
    readCode_by_path scatteredDisk distinct_scattered "app" true scattered hf
  exact ⟨distinct_scattered, hf, sources, hs, (hread sources hs lastFirst lastFirst).1⟩

end Package

end ApkAudit
