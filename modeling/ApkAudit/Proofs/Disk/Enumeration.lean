import ApkAudit.Disk.Basic
import Mathlib.Data.List.Nodup
import Mathlib.Data.List.Perm.Basic

/-! The order in which folders list their entries.  Paths lead to the same places whatever that
order is, and the files below a folder are the same. -/

namespace ApkAudit

structure Enumeration where
  order : List String → List (String × Node) → List (String × Node)
  perm : ∀ place entries, (order place entries).Perm entries

namespace Node

mutual

def enumerated (e : Enumeration) (place : List String) : Node → Node
  | file content => file content
  | locked size => locked size
  | folder writable entries => folder writable (e.order place (enumeratedIn e place entries))

def enumeratedIn (e : Enumeration) (place : List String) :
    List (String × Node) → List (String × Node)
  | [] => []
  | (name, node) :: rest =>
    (name, node.enumerated e (place ++ [name])) :: enumeratedIn e place rest

end

inductive Distinct : Node → Prop
  | file (content : ByteArray) : Distinct (.file content)
  | locked (size : Nat) : Distinct (.locked size)
  | folder {writable : Bool} {entries : List (String × Node)} (names : (entries.map Prod.fst).Nodup)
      (below : ∀ entry ∈ entries, Distinct entry.2) : Distinct (.folder writable entries)

variable {node : Node} {writable : Bool} {entries entries' : List (String × Node)} {name : String}
  {names place : List String}

lemma enumeratedIn_eq_map (e : Enumeration) (place : List String)
    (entries : List (String × Node)) :
    enumeratedIn e place entries =
      entries.map fun entry => (entry.1, entry.2.enumerated e (place ++ [entry.1])) := by
  induction entries with
  | nil => rfl
  | cons entry rest ih => rw [enumeratedIn, ih, List.map_cons]

@[simp] lemma isFile_enumerated (e : Enumeration) (place : List String) (node : Node) :
    (node.enumerated e place).isFile = node.isFile := by
  cases node <;> rfl

@[simp] lemma isFolder_enumerated (e : Enumeration) (place : List String) (node : Node) :
    (node.enumerated e place).isFolder = node.isFolder := by
  cases node <;> rfl

section Lookup

lemma lookup_eq_some_iff_mem (h : (entries.map Prod.fst).Nodup) :
    entries.lookup name = some node ↔ (name, node) ∈ entries := by
  induction entries with
  | nil => simp
  | cons entry rest ih =>
    obtain ⟨n, first⟩ := entry
    obtain ⟨hn, hr⟩ := List.nodup_cons.mp h
    rw [List.lookup_cons, List.mem_cons]
    by_cases he : name = n
    · subst he
      have hm : (name, node) ∉ rest := fun hm => hn (List.mem_map.mpr ⟨_, hm, rfl⟩)
      simp [hm, eq_comm]
    · have hb : (name == n) = false := by simpa using he
      simp [hb, he, ih hr]

lemma lookup_perm (hp : entries.Perm entries') (hn : (entries.map Prod.fst).Nodup)
    (name : String) : entries.lookup name = entries'.lookup name := by
  have hn' : (entries'.map Prod.fst).Nodup := (hp.map Prod.fst).nodup_iff.mp hn
  apply Option.ext
  intro node
  rw [lookup_eq_some_iff_mem hn, lookup_eq_some_iff_mem hn', hp.mem_iff]

lemma lookup_enumeratedIn (e : Enumeration) (place : List String) (name : String)
    (entries : List (String × Node)) :
    (enumeratedIn e place entries).lookup name =
      (entries.lookup name).map (enumerated e (place ++ [name])) := by
  induction entries with
  | nil => rfl
  | cons entry rest ih =>
    obtain ⟨n, first⟩ := entry
    rw [enumeratedIn, List.lookup_cons, List.lookup_cons]
    by_cases he : name = n
    · simp [he]
    · have hb : (name == n) = false := by simpa using he
      simp [hb, ih]

lemma lookup_order (e : Enumeration) (place : List String) (h : (entries.map Prod.fst).Nodup)
    (name : String) :
    (e.order place (enumeratedIn e place entries)).lookup name =
      (entries.lookup name).map (enumerated e (place ++ [name])) := by
  have hnames : (enumeratedIn e place entries).map Prod.fst = entries.map Prod.fst := by
    rw [enumeratedIn_eq_map, List.map_map]
    rfl
  have hn : ((enumeratedIn e place entries).map Prod.fst).Nodup := by rwa [hnames]
  rw [← lookup_perm (e.perm place _).symm hn, lookup_enumeratedIn]

lemma Distinct.nodup (h : Distinct (Node.folder writable entries)) :
    (entries.map Prod.fst).Nodup := by
  cases h with
  | folder hn _ => exact hn

lemma Distinct.of_mem (h : Distinct (Node.folder writable entries)) {entry : String × Node}
    (he : entry ∈ entries) : entry.2.Distinct := by
  cases h with
  | folder _ hb => exact hb entry he

lemma Distinct.lookup (h : Distinct (Node.folder writable entries))
    (hl : entries.lookup name = some node) : node.Distinct :=
  h.of_mem ((lookup_eq_some_iff_mem h.nodup).mp hl)

lemma Distinct.find? (h : node.Distinct) {found : Node} (hf : node.find? names = some found) :
    found.Distinct := by
  induction names generalizing node with
  | nil =>
    obtain rfl : node = found := Option.some.inj hf
    exact h
  | cons name names ih =>
    cases node with
    | file content => cases hf
    | locked size => cases hf
    | folder writable entries =>
      simp only [Node.find?, entry?] at hf
      split at hf
      · next child hl => exact ih (h.lookup hl) hf
      · cases hf

lemma find?_enumerated (e : Enumeration) (place names : List String) (h : node.Distinct) :
    (node.enumerated e place).find? names =
      (node.find? names).map (enumerated e (place ++ names)) := by
  induction names generalizing node place with
  | nil => simp [Node.find?]
  | cons name names ih =>
    cases node with
    | file content => rfl
    | locked size => rfl
    | folder writable entries =>
      simp only [enumerated, Node.find?, entry?, lookup_order e place h.nodup]
      cases hl : entries.lookup name with
      | none => rfl
      | some child =>
        have hi := ih (place ++ [name]) (h.lookup hl)
        simpa using hi

end Lookup

section Files

lemma filesIn_eq_flatMap (entries : List (String × Node)) :
    filesIn entries =
      entries.flatMap fun entry => entry.2.files.map fun f => (entry.1 :: f.1, f.2) := by
  induction entries with
  | nil => rfl
  | cons entry rest ih => rw [filesIn, ih, List.flatMap_cons]

lemma perm_filesIn (h : entries.Perm entries') : (filesIn entries).Perm (filesIn entries') := by
  rw [filesIn_eq_flatMap, filesIn_eq_flatMap]
  exact h.flatMap_right _

mutual

lemma perm_files_enumerated (e : Enumeration) (place : List String) (node : Node) :
    (node.enumerated e place).files.Perm node.files := by
  match node with
  | .file _ => exact .refl _
  | .locked _ => exact .refl _
  | .folder _ entries =>
    simp only [enumerated, files]
    exact (perm_filesIn (e.perm place _)).trans (perm_filesIn_enumeratedIn e place entries)

lemma perm_filesIn_enumeratedIn (e : Enumeration) (place : List String)
    (entries : List (String × Node)) :
    (filesIn (enumeratedIn e place entries)).Perm (filesIn entries) := by
  match entries with
  | [] => exact .refl _
  | (name, node) :: rest =>
    simp only [enumeratedIn, filesIn]
    have hnode := perm_files_enumerated e (place ++ [name]) node
    exact (hnode.map _).append (perm_filesIn_enumeratedIn e place rest)

end

def content? : Node → Option (Option ByteArray)
  | file content => some (some content)
  | locked _ => some none
  | folder _ _ => none

lemma mem_files (h : node.Distinct) {content : Option ByteArray} :
    (names, content) ∈ node.files ↔ (node.find? names).bind content? = some content := by
  induction h generalizing names with
  | file bytes =>
    cases names with
    | nil => simp [files, Node.find?, content?, eq_comm]
    | cons name names => simp [files, Node.find?, entry?]
  | locked size =>
    cases names with
    | nil => simp [files, Node.find?, content?, eq_comm]
    | cons name names => simp [files, Node.find?, entry?]
  | @folder writable entries hn hb ih =>
    rw [files, filesIn_eq_flatMap, List.mem_flatMap]
    cases names with
    | nil => simp [Node.find?, content?]
    | cons name names =>
      simp only [Node.find?, entry?, List.mem_map, Prod.mk.injEq, List.cons.injEq]
      constructor
      · rintro ⟨⟨n, child⟩, hm, ⟨p, c⟩, hf, ⟨rfl, rfl⟩, rfl⟩
        rw [(lookup_eq_some_iff_mem hn).mpr hm]
        exact (ih _ hm).mp hf
      · intro hf
        cases hl : entries.lookup name with
        | none => simp [hl] at hf
        | some child =>
          have hm := (lookup_eq_some_iff_mem hn).mp hl
          simp only [hl] at hf
          exact ⟨_, hm, _, (ih _ hm).mpr hf, ⟨rfl, rfl⟩, rfl⟩

lemma nodup_files (h : node.Distinct) : (node.files.map Prod.fst).Nodup := by
  induction h with
  | file content => simp [files]
  | locked size => simp [files]
  | @folder writable entries hn hb ih =>
    rw [files, filesIn_eq_flatMap, List.map_flatMap, List.nodup_flatMap]
    constructor
    · intro entry he
      have hm : (entry.2.files.map fun f => (entry.1 :: f.1, f.2)).map Prod.fst =
          (entry.2.files.map Prod.fst).map (entry.1 :: ·) := by
        simp
      rw [hm]
      exact (ih entry he).map fun a b hab => (List.cons.inj hab).2
    · -- files below different entries differ in their first names
      refine (List.pairwise_map.mp hn).imp fun {a b} hne => ?_
      intro p ha hb
      simp only [List.map_map, List.mem_map, Function.comp_apply] at ha hb
      obtain ⟨f, -, rfl⟩ := ha
      obtain ⟨g, -, hg⟩ := hb
      exact hne (List.cons.inj hg).1.symm

end Files

end Node

namespace Disk

variable {disk : Disk} {path : String}

def enumerated (e : Enumeration) (disk : Disk) : Disk :=
  { disk with root := disk.root.enumerated e [] }

lemma root_enumerated (e : Enumeration) (disk : Disk) :
    (disk.enumerated e).root = disk.root.enumerated e [] := rfl

lemma walk_enumerated (e : Enumeration) {root : Node} (h : root.Distinct)
    (place steps : List String) :
    walk (root.enumerated e []) place steps = walk root place steps := by
  induction steps generalizing place with
  | nil => rfl
  | cons step rest ih =>
    simp only [walk, Node.find?_enumerated e [] place h]
    cases hf : root.find? place with
    | none => rfl
    | some node =>
      cases node with
      | file content => rfl
      | locked size => rfl
      | folder writable entries =>
        have hl := Node.lookup_order e ([] ++ place) (h.find? hf).nodup step
        simp only [Option.map_some, Node.enumerated, hl, Option.isSome_map, ih]

lemma resolve_enumerated (e : Enumeration) (h : disk.root.Distinct) (path : String) :
    (disk.enumerated e).resolve path = disk.resolve path := by
  have hfile : ∀ place, ((disk.root.enumerated e []).find? place).map Node.isFile =
      (disk.root.find? place).map Node.isFile := by
    intro place
    rw [Node.find?_enumerated e [] place h, Option.map_map]
    congr 1
    funext node
    exact Node.isFile_enumerated e _ node
  have hstart : (disk.enumerated e).start path = disk.start path := rfl
  simp only [resolve, hstart, root_enumerated, walk_enumerated e h, hfile]

lemma get_enumerated (e : Enumeration) (h : disk.root.Distinct) (path : String) :
    ∃ place, (disk.enumerated e).get path = (disk.get path).map (Node.enumerated e place) := by
  simp only [get, resolve_enumerated e h]
  cases disk.resolve path with
  | error problem => exact ⟨[], rfl⟩
  | ok place =>
    refine ⟨place, ?_⟩
    simp only [bind, Except.bind, root_enumerated, Node.find?_enumerated e [] place h]
    cases disk.root.find? place <;> rfl

lemma distinct_of_get (h : disk.root.Distinct) {node : Node} (hg : disk.get path = .ok node) :
    node.Distinct := by
  obtain ⟨place, -, hp⟩ := Outcome.of_bind_ok hg
  split at hp
  · next found hf =>
    obtain rfl := Except.ok.inj hp
    exact h.find? hf
  · cases hp

end Disk

end ApkAudit
