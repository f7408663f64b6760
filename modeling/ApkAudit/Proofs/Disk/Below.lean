import ApkAudit.Proofs.Disk.Frame

/-! What is done below a folder is done as if that folder were a disk of its own: the files end up
in the same places below it, and nothing else changes. -/

namespace ApkAudit.Node

variable {name : String} {node : Node} {entries : List (String × Node)}

lemma setEntry_setEntry (name : String) (node : Node) (value : Option Node)
    (entries : List (String × Node)) :
    setEntry name value (setEntry name (some node) entries) = setEntry name value entries := by
  induction entries with
  | nil => cases value <;> simp [setEntry]
  | cons entry rest ih =>
    obtain ⟨n, old⟩ := entry
    by_cases hn : n = name
    · simp [setEntry, hn]
    · simp [setEntry, hn, ih]

lemma setEntry_of_lookup (h : entries.lookup name = some node) :
    setEntry name (some node) entries = entries := by
  induction entries with
  | nil => cases h
  | cons entry rest ih =>
    obtain ⟨n, old⟩ := entry
    by_cases hn : n = name
    · subst hn
      obtain rfl : old = node := by simpa using h
      simp [setEntry]
    · have hb : (name == n) = false := by simpa using Ne.symm hn
      rw [List.lookup_cons, hb] at h
      simp [setEntry, hn, ih h]

lemma setEntry_none_of_lookup (h : entries.lookup name = none) :
    setEntry name none entries = entries := by
  induction entries with
  | nil => rfl
  | cons entry rest ih =>
    obtain ⟨n, old⟩ := entry
    by_cases hn : n = name
    · subst hn
      simp at h
    · have hb : (name == n) = false := by simpa using Ne.symm hn
      rw [List.lookup_cons, hb] at h
      simp [setEntry, hn, ih h]

lemma mem_setEntry {value : Option Node} {entry : String × Node}
    (h : entry ∈ setEntry name value entries) :
    entry ∈ entries ∨ (entry.1 = name ∧ value = some entry.2) := by
  induction entries with
  | nil => cases value <;> simp_all [setEntry]
  | cons first rest ih =>
    obtain ⟨n, old⟩ := first
    by_cases hn : n = name
    · cases value with
      | none =>
        simp only [setEntry, hn, if_true] at h
        exact Or.inl (List.mem_cons_of_mem _ h)
      | some new =>
        simp only [setEntry, hn, if_true, List.mem_cons] at h
        rcases h with rfl | h
        · exact Or.inr ⟨rfl, rfl⟩
        · exact Or.inl (List.mem_cons_of_mem _ h)
    · simp only [setEntry, hn, if_false, List.mem_cons] at h
      rcases h with rfl | h
      · exact Or.inl List.mem_cons_self
      · exact (ih h).imp_left (List.mem_cons_of_mem _)

lemma nodup_setEntry (h : (entries.map Prod.fst).Nodup) (value : Option Node) :
    ((setEntry name value entries).map Prod.fst).Nodup := by
  induction entries with
  | nil => cases value <;> simp [setEntry]
  | cons first rest ih =>
    obtain ⟨n, old⟩ := first
    obtain ⟨hn, hr⟩ := List.nodup_cons.mp h
    by_cases he : n = name
    · subst he
      cases value with
      | none => simpa [setEntry] using hr
      | some new => simpa [setEntry] using ⟨by simpa using hn, hr⟩
    · simp only [setEntry, he, if_false, List.map_cons, List.nodup_cons]
      refine ⟨fun hm => ?_, ih hr⟩
      obtain ⟨entry, hin, hfst⟩ := List.mem_map.mp hm
      rcases mem_setEntry hin with hin | ⟨hname, _⟩
      · exact hn (List.mem_map.mpr ⟨entry, hin, hfst⟩)
      · exact he (hfst.symm.trans hname)

lemma lookup_setEntry_none (h : (entries.map Prod.fst).Nodup) :
    (setEntry name none entries).lookup name = none := by
  induction entries with
  | nil => rfl
  | cons first rest ih =>
    obtain ⟨n, old⟩ := first
    obtain ⟨hn, hr⟩ := List.nodup_cons.mp h
    by_cases he : n = name
    · subst he
      rw [setEntry, if_pos rfl, List.lookup_eq_none_iff]
      intro entry hin
      have hne : n ≠ entry.1 := fun he => hn (List.mem_map.mpr ⟨entry, hin, he.symm⟩)
      simpa using hne
    · have hb : (name == n) = false := by simpa using Ne.symm he
      simp [setEntry, he, List.lookup_cons, hb, ih hr]

section Set

variable {root : Node} {place rest other : List String} {writable : Bool}

lemma find?_cons_some {names : List String} (h : root.find? (name :: names) = some node) :
    ∃ writable entries child, root = .folder writable entries ∧ entries.lookup name = some child ∧
      child.find? names = some node := by
  cases root with
  | file content => simp [find?, entry?] at h
  | locked size => simp [find?, entry?] at h
  | folder writable entries =>
    cases hl : entries.lookup name with
    | none => simp [find?, entry?, hl] at h
    | some child => exact ⟨writable, entries, child, rfl, hl, by simpa [find?, entry?, hl] using h⟩

lemma set_append (hr : rest ≠ []) (h : root.find? place = some node) (value : Option Node) :
    root.set value (place ++ rest) = root.set (some (node.set value rest)) place := by
  obtain ⟨r, rs, rfl⟩ := List.exists_cons_of_ne_nil hr
  induction place generalizing root with
  | nil =>
    obtain rfl : root = node := Option.some.inj h
    simp [set]
  | cons a as ih =>
    obtain ⟨writable, entries, child, rfl, hl, hc⟩ := find?_cons_some h
    cases as with
    | nil =>
      obtain rfl : child = node := Option.some.inj hc
      simp [set, hl]
    | cons b bs =>
      have hi := ih hc
      simp only [List.cons_append] at hi
      simp [set, hl, hi]

lemma set_set (hp : place ≠ []) (root node : Node) (value : Option Node) :
    (root.set (some node) place).set value place = root.set value place := by
  induction place generalizing root with
  | nil => exact (hp rfl).elim
  | cons a as ih =>
    cases root with
    | file content => cases as <;> rfl
    | locked size => cases as <;> rfl
    | folder writable entries =>
      cases as with
      | nil => simp [set, setEntry_setEntry]
      | cons b bs =>
        cases hl : entries.lookup a with
        | none => simp [set, hl]
        | some child =>
          simp [set, hl, lookup_setEntry_self, setEntry_setEntry, ih (List.cons_ne_nil b bs)]

lemma set_some_set_some (place : List String) (root node new : Node) :
    (root.set (some node) place).set (some new) place = root.set (some new) place := by
  by_cases hp : place = []
  · subst hp
    cases node <;> cases root <;> rfl
  · exact set_set hp root node (some new)

lemma set_of_find? (h : root.find? place = some node) : root.set (some node) place = root := by
  induction place generalizing root with
  | nil =>
    obtain rfl : root = node := Option.some.inj h
    cases root <;> rfl
  | cons a as ih =>
    obtain ⟨writable, entries, child, rfl, hl, hc⟩ := find?_cons_some h
    cases as with
    | nil =>
      obtain rfl : child = node := Option.some.inj hc
      simp [set, setEntry_of_lookup hl]
    | cons b bs => simp [set, hl, ih hc, setEntry_of_lookup hl]

lemma find?_set_place (h : root.find? place = some node) (new : Node) :
    (root.set (some new) place).find? place = some new := by
  induction place generalizing root with
  | nil => cases root <;> rfl
  | cons a as ih =>
    obtain ⟨writable, entries, child, rfl, hl, hc⟩ := find?_cons_some h
    cases as with
    | nil => simp [set, find?, entry?, lookup_setEntry_self]
    | cons b bs =>
      have hi := ih hc
      simpa [set, hl, find?, entry?, lookup_setEntry_self] using hi

lemma find?_set_child (h : root.find? place = some (.folder writable entries)) (name : String)
    (value : Option Node) :
    (root.set value (place ++ [name])).find? place =
      some (.folder writable (setEntry name value entries)) := by
  rw [set_append (List.cons_ne_nil name []) h]
  exact find?_set_place h _

lemma find?_child (h : root.find? place = some (.folder writable entries)) (name : String) :
    root.find? (place ++ [name]) = entries.lookup name := by
  rw [find?_append, h, Option.bind_some]
  simp only [find?, entry?]
  cases entries.lookup name <;> rfl

def FolderAt (root : Node) (writable : Bool) (place : List String) : Prop :=
  ∃ entries, root.find? place = some (.folder writable entries)

def HasFolder (root : Node) (place : List String) : Prop :=
  ∃ writable, root.FolderAt writable place

lemma folderAt_set (ho : ¬ place <+: other) (h : root.FolderAt writable other)
    (value : Option Node) : (root.set value place).FolderAt writable other := by
  induction place generalizing root other with
  | nil => exact (ho List.nil_prefix).elim
  | cons a as ih =>
    obtain ⟨inner, hi⟩ := h
    cases other with
    | nil =>
      obtain rfl : root = .folder writable inner := Option.some.inj hi
      obtain ⟨changed, hs⟩ := set_folder value a as writable inner
      exact ⟨changed, congrArg some hs⟩
    | cons o os =>
      obtain ⟨around, entries, child, rfl, hl, hc⟩ := find?_cons_some hi
      by_cases hoa : o = a
      · subst hoa
        cases as with
        | nil => exact (ho (by simp)).elim
        | cons b bs =>
          obtain ⟨changed, hs⟩ := ih (fun hp => ho (by simpa using hp)) ⟨inner, hc⟩
          exact ⟨changed, by simpa [set, hl, find?, entry?, lookup_setEntry_self] using hs⟩
      · refine ⟨inner, ?_⟩
        cases as with
        | nil => simpa [set, find?, entry?, lookup_setEntry_ne hoa] using hi
        | cons b bs =>
          simp only [set]
          split
          · simpa [find?, entry?, lookup_setEntry_ne hoa] using hi
          · exact hi

lemma hasFolder_set (ho : ¬ place <+: other) (h : root.HasFolder other) (value : Option Node) :
    (root.set value place).HasFolder other := by
  obtain ⟨writable, hf⟩ := h
  exact ⟨writable, folderAt_set ho hf value⟩

end Set

end ApkAudit.Node

namespace ApkAudit.Disk

section Steps

variable {path : String}

lemma steps_join_relative (base : String) (h : Path.isAbsolute path = false) :
    steps (Path.join base path) = steps base ++ steps path := by
  simp [steps, Path.pieces_join_relative base h]

lemma needsFolder_join (base : String) (h : Path.isAbsolute path = false) :
    needsFolder (Path.join base path) = needsFolder path := by
  have hlast : ∀ front : String, needsFolder (front ++ "/" ++ path) = needsFolder path := by
    intro front
    have hs : Text.split '/' (front ++ "/" ++ path) =
        Text.split '/' front ++ Text.split '/' path := by
      have he : (front ++ "/" ++ path).toList = front.toList ++ '/' :: path.toList := by simp
      simp only [Text.split, he, Text.splitChar_append, List.map_append]
    have hn : Text.split '/' path ≠ [] := by
      simpa [Text.split] using Text.splitChar_ne_nil '/' path.toList
    unfold needsFolder
    rw [hs, List.getLast?_append, List.getLast?_eq_some_getLast hn, Option.some_or]
  unfold Path.join
  rw [h]
  simp only [Bool.false_eq_true, if_false]
  split
  · rfl
  · split
    · next hl =>
      obtain ⟨front, hf⟩ := List.getLast?_eq_some_iff.mp hl
      have he : base ++ path = String.ofList front ++ "/" ++ path :=
        String.toList_inj.mp (by simp [hf])
      rw [he, hlast]
    · exact hlast base

def IsStep (name : String) : Prop :=
  name ≠ "" ∧ '/' ∉ name.toList ∧ name ≠ "."

lemma isStep_of_mem_steps {name : String} (h : name ∈ steps path) : IsStep name := by
  obtain ⟨hp, hd⟩ := List.mem_filter.mp h
  obtain ⟨hs, hn⟩ := List.mem_filter.mp hp
  obtain ⟨cs, hcs, rfl⟩ := List.mem_map.mp hs
  refine ⟨by simpa using hn, ?_, by simpa using hd⟩
  simpa using Text.not_mem_of_mem_splitChar hcs

lemma steps_step {name : String} (h : IsStep name) : steps name = [name] := by
  simp [steps, Path.pieces, Text.split, Text.splitChar_of_not_mem h.2.1, h.1, h.2.2]

lemma steps_intercalate {names : List String} (h : ∀ name ∈ names, IsStep name) :
    steps (String.intercalate "/" names) = names ∧
      Path.isAbsolute (String.intercalate "/" names) = false := by
  induction names with
  | nil => exact ⟨rfl, rfl⟩
  | cons name rest ih =>
    have hs := h name List.mem_cons_self
    obtain ⟨hi, _⟩ := ih fun other ho => h other (List.mem_cons_of_mem _ ho)
    have hhead : ∀ tail, (name.toList ++ tail).head? ≠ some '/' := by
      obtain ⟨c, cs, hc⟩ := List.exists_cons_of_ne_nil (mt String.toList_eq_nil_iff.mp hs.1)
      intro tail he
      rw [hc, List.cons_append, List.head?_cons] at he
      exact hs.2.1 (by rw [hc, Option.some.inj he]; exact List.mem_cons_self)
    cases rest with
    | nil => exact ⟨steps_step hs, by simpa [Path.isAbsolute] using hhead []⟩
    | cons next rest =>
      rw [String.intercalate_cons_cons]
      refine ⟨?_, ?_⟩
      · rw [steps, Path.pieces_append, List.filter_append]
        exact congrArg₂ (· ++ ·) (steps_step hs) hi
      · simpa [Path.isAbsolute] using hhead ('/' :: (String.intercalate "/" (next :: rest)).toList)

lemma steps_parentPath (path : String) :
    steps (parentPath path) = (steps path).dropLast ∧
      Path.isAbsolute (parentPath path) = Path.isAbsolute path := by
  obtain ⟨hs, ha⟩ := steps_intercalate fun _ h =>
    isStep_of_mem_steps (List.dropLast_subset (steps path) h)
  unfold parentPath
  cases hp : Path.isAbsolute path with
  | false => simpa using ⟨hs, ha⟩
  | true =>
    have hslash : "/" ++ String.intercalate "/" (steps path).dropLast =
        "" ++ "/" ++ String.intercalate "/" (steps path).dropLast := by simp
    refine ⟨?_, by simp [Path.isAbsolute]⟩
    rw [if_pos rfl, hslash, steps, Path.pieces_append, Path.pieces_empty, List.nil_append]
    exact hs

end Steps

section Walks

variable {root node : Node} {place above names p : List String}

lemma walk_append (root : Node) (place as bs : List String) :
    walk root place (as ++ bs) = walk root place as >>= fun p => walk root p bs := by
  induction as generalizing place with
  | nil => rfl
  | cons a as ih =>
    simp only [List.cons_append, walk]
    split
    · split
      · exact ih _
      · split
        · exact ih _
        · rfl
    · rfl
    · rfl

lemma descend_plain (place : List String) (h : ".." ∉ names) :
    descend place names = place ++ names := by
  induction names generalizing place with
  | nil => simp [descend]
  | cons a as ih =>
    obtain ⟨ha, has⟩ := List.ne_and_not_mem_of_not_mem_cons h
    rw [descend_cons, move, if_neg (Ne.symm ha), ih _ has, List.append_assoc, List.singleton_append]

lemma hasFolder_of_walk (h : walk root place names = .ok p) (hp : root.HasFolder p) :
    root.HasFolder place := by
  cases names with
  | nil => exact Except.ok.inj h ▸ hp
  | cons a as =>
    unfold walk at h
    split at h
    · next writable entries hf => exact ⟨writable, entries, hf⟩
    · cases h
    · cases h

lemma hasFolder_of_walk_append {as bs : List String} (hb : bs ≠ [])
    (h : walk root place (as ++ bs) = .ok p) :
    ∃ q, walk root place as = .ok q ∧ root.HasFolder q := by
  obtain ⟨b, rest, rfl⟩ := List.exists_cons_of_ne_nil hb
  rw [walk_append] at h
  obtain ⟨q, hq, hr⟩ := Outcome.of_bind_ok h
  refine ⟨q, hq, ?_⟩
  unfold walk at hr
  split at hr
  · next writable entries hf => exact ⟨writable, entries, hf⟩
  · cases hr
  · cases hr

lemma walk_of_folders {root' : Node}
    (hk : ∀ front, front <+: names → root.HasFolder (descend place front) →
      root'.HasFolder (descend place front))
    (h : walk root place names = .ok p) (hp : root.HasFolder p) :
    walk root' place names = .ok p := by
  induction names generalizing place with
  | nil => exact h
  | cons a as ih =>
    obtain ⟨w', entries', hf'⟩ := hk [] List.nil_prefix (hasFolder_of_walk h hp)
    have hf' : root'.find? place = some (.folder w' entries') := hf'
    have hrest : ∀ front, front <+: as → root.HasFolder (descend (move place a) front) →
        root'.HasFolder (descend (move place a) front) :=
      fun front hfr => hk (a :: front) (by simpa using hfr)
    unfold walk at h ⊢
    rw [hf']
    split at h
    · split at h
      · next ha =>
        rw [move, if_pos ha] at hrest
        rw [if_pos ha]
        exact ih hrest h
      · next ha =>
        rw [move, if_neg ha] at hrest
        rw [if_neg ha]
        split at h
        · -- the next folder is still there, so its name is found
          obtain ⟨wi, inner, hi⟩ := hrest [] List.nil_prefix (hasFolder_of_walk h hp)
          have hl : (entries'.lookup a).isSome = true := by
            have hc : root'.find? (place ++ [a]) = some (.folder wi inner) := hi
            rw [Node.find?_child hf'] at hc
            rw [hc]
            rfl
          rw [if_pos hl]
          exact ih hrest h
        · cases h
    · cases h
    · cases h

lemma walk_below (h : root.find? above = some node) (hn : ".." ∉ names) :
    walk root (above ++ place) names = (walk node place names).map (above ++ ·) := by
  induction names generalizing place with
  | nil => rfl
  | cons a as ih =>
    obtain ⟨ha, has⟩ := List.ne_and_not_mem_of_not_mem_cons hn
    have hf : root.find? (above ++ place) = node.find? place := by
      rw [Node.find?_append, h]
      rfl
    unfold walk
    rw [hf]
    split
    · simp only [Ne.symm ha, if_false]
      split
      · rw [List.append_assoc]
        exact ih has
      · rfl
    · rfl
    · rfl

lemma makeSteps_append {made : Node} {as : List String} (bs : List String)
    (h : makeSteps root place as = (made, none)) :
    makeSteps root place (as ++ bs) = makeSteps made (descend place as) bs := by
  induction as generalizing root place with
  | nil =>
    obtain rfl : root = made := (Prod.mk.inj h).1
    rfl
  | cons a as ih =>
    rw [List.cons_append, descend_cons]
    unfold makeSteps at h
    conv_lhs => unfold makeSteps
    split at h
    · split at h
      · next ha =>
        rw [if_pos ha, move, if_pos ha]
        exact ih h
      · next ha =>
        rw [if_neg ha, move, if_neg ha]
        split at h
        · split at h
          · next hw =>
            rw [if_pos hw]
            exact ih h
          · cases (Prod.mk.inj h).2
        · exact ih h
        · cases (Prod.mk.inj h).2
    · cases (Prod.mk.inj h).2
    · cases (Prod.mk.inj h).2

lemma makeSteps_of_walk (h : walk root place names = .ok p) (hp : root.HasFolder p) :
    makeSteps root place names = (root, none) := by
  induction names generalizing place with
  | nil => rfl
  | cons a as ih =>
    unfold walk at h
    unfold makeSteps
    split at h
    · next writable entries hf =>
      split at h
      · next ha =>
        rw [if_pos ha]
        exact ih h
      · next ha =>
        rw [if_neg ha]
        split at h
        · obtain ⟨w, inner, hi⟩ := hasFolder_of_walk h hp
          rw [Node.find?_child hf] at hi
          rw [hi]
          exact ih h
        · cases h
    · cases h
    · cases h

lemma makeSteps_below (h : root.find? above = some node) (hn : ".." ∉ names) :
    makeSteps root (above ++ place) names =
      (root.set (some (makeSteps node place names).1) above, (makeSteps node place names).2) := by
  induction names generalizing root node place with
  | nil => simp [makeSteps, Node.set_of_find? h]
  | cons a as ih =>
    obtain ⟨hd, has⟩ := List.ne_and_not_mem_of_not_mem_cons hn
    have hf : root.find? (above ++ place) = node.find? place := by
      rw [Node.find?_append, h]
      rfl
    have hself : root.set (some node) above = root := Node.set_of_find? h
    unfold makeSteps
    rw [hf]
    split
    · simp only [Ne.symm hd, if_false]
      split
      · split
        · have hs : root.set (some .empty) (above ++ (place ++ [a])) =
              root.set (some (node.set (some .empty) (place ++ [a]))) above :=
            Node.set_append (by simp) h _
          rw [List.append_assoc, hs, ih (Node.find?_set_place h _) has]
          simp only [Node.set_some_set_some]
        · rw [hself]
      · rw [List.append_assoc]
        exact ih h has
      · rw [hself]
    · rw [hself]
    · rw [hself]

end Walks

end ApkAudit.Disk
