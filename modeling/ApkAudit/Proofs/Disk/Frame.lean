import ApkAudit.Machine
import ApkAudit.Proofs.Path.Components

/-! Where paths lead, and which files an operation on the disk can touch: only those at or below
the place of its path. -/

namespace ApkAudit.Node

def file? (names : List String) (root : Node) : Option Node :=
  (root.find? names).filter isFile

lemma find?_append (as bs : List String) (root : Node) :
    root.find? (as ++ bs) = (root.find? as).bind (find? bs) := by
  induction as generalizing root with
  | nil => rfl
  | cons a as ih =>
    simp only [List.cons_append, find?]
    cases root.entry? a with
    | none => rfl
    | some node => exact ih node

lemma lookup_setEntry_ne {name other : String} (h : other ≠ name) (value : Option Node)
    (entries : List (String × Node)) :
    (setEntry name value entries).lookup other = entries.lookup other := by
  have hb : (other == name) = false := by simpa using h
  induction entries with
  | nil => cases value <;> simp [setEntry, List.lookup_cons, hb]
  | cons entry rest ih =>
    obtain ⟨n, node⟩ := entry
    by_cases hn : n = name
    · subst hn
      cases value <;> simp [setEntry, List.lookup_cons, hb]
    · cases ho : other == n <;> simp [setEntry, hn, List.lookup_cons, ho, ih]

lemma lookup_setEntry_self (name : String) (node : Node) (entries : List (String × Node)) :
    (setEntry name (some node) entries).lookup name = some node := by
  induction entries with
  | nil => simp [setEntry]
  | cons entry rest ih =>
    obtain ⟨n, old⟩ := entry
    by_cases hn : n = name
    · simp [setEntry, hn]
    · have hb : (name == n) = false := by simpa using Ne.symm hn
      simp [setEntry, hn, List.lookup_cons, hb, ih]

lemma set_folder (value : Option Node) (name : String) (names : List String) (writable : Bool)
    (entries : List (String × Node)) :
    ∃ changed, set value (name :: names) (.folder writable entries) = .folder writable changed := by
  cases names with
  | nil => exact ⟨_, rfl⟩
  | cons next names =>
    simp only [set]
    split
    · exact ⟨_, rfl⟩
    · exact ⟨_, rfl⟩

lemma file?_set {place other : List String} (h : ¬ place <+: other) (value : Option Node)
    (root : Node) : (set value place root).file? other = root.file? other := by
  induction place generalizing root other with
  | nil => exact (h (List.nil_prefix)).elim
  | cons name names ih =>
    cases root with
    | file content => cases names <;> rfl
    | locked size => cases names <;> rfl
    | folder writable entries =>
      cases other with
      | nil =>
        obtain ⟨changed, hs⟩ := set_folder value name names writable entries
        rw [hs]
        rfl
      | cons o os =>
        cases names with
        | nil =>
          have ho : o ≠ name := fun he => h (by simp [he])
          simp [set, file?, find?, entry?, lookup_setEntry_ne ho]
        | cons next names =>
          simp only [set]
          split
          · next node hl =>
            -- below the same child the rest of the place decides, other children are kept whole
            by_cases ho : o = name
            · subst ho
              have hi : ((node.set value (next :: names)).file? os) = node.file? os :=
                ih (fun hp => h (by simpa using hp)) node
              simpa [file?, find?, entry?, lookup_setEntry_self, hl] using hi
            · simp [file?, find?, entry?, lookup_setEntry_ne ho]
          · rfl

lemma find?_set_self {place : List String} {root : Node} {writable : Bool}
    {entries : List (String × Node)} (h : root.find? place = some (.folder writable entries))
    (step : String) (node : Node) :
    (set (some node) (place ++ [step]) root).find? (place ++ [step]) = some node := by
  induction place generalizing root with
  | nil =>
    obtain rfl : root = .folder writable entries := Option.some.inj h
    simp [set, find?, entry?, lookup_setEntry_self]
  | cons name names ih =>
    cases root with
    | file content => simp [find?, entry?] at h
    | locked size => simp [find?, entry?] at h
    | folder around old =>
      obtain ⟨next, rest, hn⟩ := List.exists_cons_of_ne_nil
        (List.append_ne_nil_of_right_ne_nil names (List.cons_ne_nil step []))
      cases hl : old.lookup name with
      | none => simp [find?, entry?, hl] at h
      | some child =>
        have hc : child.find? names = some (.folder writable entries) := by
          simpa [find?, entry?, hl] using h
        have hi := ih hc
        rw [hn] at hi
        simp only [List.cons_append, hn, set, hl]
        simpa [find?, entry?, lookup_setEntry_self] using hi

lemma file?_set_empty {place : List String} {root : Node} {writable : Bool}
    {entries : List (String × Node)} {step : String}
    (hf : root.find? place = some (.folder writable entries)) (hl : entries.lookup step = none)
    (other : List String) :
    (set (some .empty) (place ++ [step]) root).file? other = root.file? other := by
  by_cases hp : place ++ [step] <+: other
  · obtain ⟨rest, rfl⟩ := hp
    have ha :
        (set (some .empty) (place ++ [step]) root).file? (place ++ [step] ++ rest) = none := by
      rw [file?, find?_append, find?_set_self hf]
      cases rest <;> rfl
    have hb : root.file? (place ++ [step] ++ rest) = none := by
      rw [file?, List.append_assoc, find?_append, hf]
      simp [find?, entry?, hl]
    rw [ha, hb]
  · exact file?_set hp _ _

end ApkAudit.Node

namespace ApkAudit.Disk

def move (place : List String) (step : String) : List String :=
  if step = ".." then place.dropLast else place ++ [step]

def descend (place names : List String) : List String :=
  names.foldl move place

def placeOf (disk : Disk) (path : String) : Option (List String) :=
  (disk.start path).map fun origin => descend origin (steps path)

lemma descend_cons (place : List String) (step : String) (rest : List String) :
    descend place (step :: rest) = descend (move place step) rest := rfl

lemma descend_append (place as bs : List String) :
    descend place (as ++ bs) = descend (descend place as) bs :=
  List.foldl_append

lemma steps_join (base : String) {name : String} (h : Path.IsOrdinary name) :
    steps (Path.join base name) = steps base ++ [name] := by
  simp [steps, Path.pieces_join base h, h.2.2.1]

lemma start_join (disk : Disk) (base : String) {name : String} (h : Path.IsOrdinary name) :
    disk.start (Path.join base name) = disk.start base := by
  simp only [start, Path.isAbsolute_join base h]

lemma placeOf_join (disk : Disk) (base : String) {name : String} (h : Path.IsOrdinary name) :
    disk.placeOf (Path.join base name) = (disk.placeOf base).map (· ++ [name]) := by
  simp [placeOf, start_join disk base h, steps_join base h, descend, move, h.2.2.2,
    Function.comp_def]

lemma walk_descend {root : Node} {place names p : List String}
    (h : walk root place names = .ok p) : descend place names = p := by
  induction names generalizing place with
  | nil => exact Except.ok.inj h
  | cons step rest ih =>
    rw [descend_cons]
    unfold walk at h
    split at h
    · split at h
      · next hs =>
        rw [move, if_pos hs]
        exact ih h
      · next hs =>
        rw [move, if_neg hs]
        split at h
        · exact ih h
        · cases h
    · cases h
    · cases h

lemma walk_of_resolve {disk : Disk} {path : String} {place : List String}
    (h : disk.resolve path = .ok place) :
    ∃ origin, disk.start path = some origin ∧ walk disk.root origin (steps path) = .ok place := by
  unfold resolve at h
  split at h
  · cases h
  · next origin ho =>
    split at h
    · cases h
    · split at h
      · cases h
      · next p hw =>
        split at h
        · cases h
        · exact ⟨origin, ho, hw.trans h⟩

lemma placeOf_of_resolve {disk : Disk} {path : String} {place : List String}
    (h : disk.resolve path = .ok place) : disk.placeOf path = some place := by
  obtain ⟨origin, ho, hw⟩ := walk_of_resolve h
  rw [placeOf, ho, Option.map_some, walk_descend hw]

def Inside (area : Option (List String)) (place : List String) : Prop :=
  ∃ top, area = some top ∧ top <+: place

/-- Two states of a disk have the same files, each with the same content, outside of an area. -/
def SameOutside (area : Option (List String)) (before after : Disk) : Prop :=
  ∀ place, ¬ Inside area place → after.root.file? place = before.root.file? place

/-- The working folder, as far as it is still there, has not changed. -/
def Follows (before after : Disk) : Prop :=
  ∀ place, after.working = some place → before.working = some place

variable {area : Option (List String)} {disk before after : Disk}

lemma SameOutside.refl (area : Option (List String)) (disk : Disk) : SameOutside area disk disk :=
  fun _ _ => rfl

lemma SameOutside.trans {middle : Disk} (h₁ : SameOutside area before middle)
    (h₂ : SameOutside area middle after) : SameOutside area before after :=
  fun place hp => (h₂ place hp).trans (h₁ place hp)

lemma SameOutside.mono {small : Option (List String)} (h : SameOutside small before after)
    (hs : ∀ place, small = some place → Inside area place) : SameOutside area before after := by
  intro place hp
  apply h place
  rintro ⟨top, ht, hpre⟩
  obtain ⟨wide, hw, hpre'⟩ := hs top ht
  exact hp ⟨wide, hw, hpre'.trans hpre⟩

lemma Follows.refl (disk : Disk) : Follows disk disk :=
  fun _ h => h

lemma Follows.trans {middle : Disk} (h₁ : Follows before middle) (h₂ : Follows middle after) :
    Follows before after :=
  fun place h => h₁ place (h₂ place h)

lemma follows_of_eq (h : after.working = before.working) : Follows before after :=
  fun _ hp => h ▸ hp

lemma Follows.start {path : String} {origin : List String} (h : Follows before after)
    (ho : after.start path = some origin) : before.start path = some origin := by
  unfold Disk.start at ho ⊢
  split at ho
  · next ha => rwa [if_pos ha]
  · next ha =>
    rw [if_neg ha]
    exact h origin ho

lemma Follows.placeOf {path : String} {place : List String} (h : Follows before after)
    (hp : after.placeOf path = some place) : before.placeOf path = some place := by
  obtain ⟨origin, ho, rfl⟩ := Option.map_eq_some_iff.mp hp
  rw [Disk.placeOf, h.start ho, Option.map_some]

lemma start_congr (h : after.working = before.working) (path : String) :
    after.start path = before.start path := by
  rw [start, start, h]

section Operations

variable (disk) (path : String) (content : ByteArray)

lemma graft_sameOutside (place : List String) (node : Node) :
    SameOutside (some place) disk (disk.graft place node) :=
  fun _ ho => Node.file?_set (fun hp => ho ⟨place, rfl, hp⟩) _ _

lemma shrunk_sameOutside {place : List String} (value : Option Node) :
    SameOutside (some place) disk (disk.shrunk (disk.root.set value place)) :=
  fun _ ho => Node.file?_set (fun hp => ho ⟨place, rfl, hp⟩) _ _

variable {disk path} in
lemma target_ok {place : List String} (h : disk.target path = .ok place) :
    ∃ origin folder last, disk.start path = some origin ∧ (steps path).getLast? = some last ∧
      last ≠ ".." ∧ walk disk.root origin (steps path).dropLast = .ok folder ∧
      (∃ writable entries, disk.root.find? folder = some (.folder writable entries) ∧
        ∀ w inner, entries.lookup last ≠ some (.folder w inner)) ∧
      place = folder ++ [last] := by
  unfold target at h
  split at h
  · cases h
  · cases h
  · next origin last ho hl =>
    obtain ⟨folder, hw, h⟩ := Outcome.of_bind_ok h
    refine ⟨origin, folder, last, ho, hl, ?_⟩
    split at h
    · next writable entries hf =>
      split at h
      · cases h
      · next hd =>
        refine ⟨hd, hw, ?_⟩
        split at h
        · cases h
        · cases h
        · next hl =>
          split at h
          · cases h
          · exact ⟨⟨writable, entries, hf, by simp [hl]⟩, (Except.ok.inj h).symm⟩
        · next hl =>
          split at h
          · cases h
          · split at h
            · exact ⟨⟨writable, entries, hf, by simp [hl]⟩, (Except.ok.inj h).symm⟩
            · cases h
    · cases h
    · cases h

variable {disk path} in
lemma placeOf_of_target {place : List String} (h : disk.target path = .ok place) :
    disk.placeOf path = some place := by
  obtain ⟨origin, folder, last, ho, hl, hd, hw, _, rfl⟩ := target_ok h
  obtain ⟨front, hs⟩ := List.getLast?_eq_some_iff.mp hl
  rw [hs, List.dropLast_concat] at hw
  rw [placeOf, ho, Option.map_some, hs, descend_append, walk_descend hw, descend_cons, move,
    if_neg hd]
  rfl

lemma write_sameOutside : SameOutside (disk.placeOf path) disk (disk.write path content).1 := by
  unfold write
  split
  · exact .refl _ _
  · next place h =>
    rw [placeOf_of_target h]
    exact graft_sameOutside disk place _

lemma makeSteps_file? (root : Node) (place names other : List String) :
    (makeSteps root place names).1.file? other = root.file? other := by
  induction names generalizing root place with
  | nil => rfl
  | cons step rest ih =>
    unfold makeSteps
    split
    · next writable entries hf =>
      split
      · exact ih _ _
      · split
        · next hl =>
          split
          · exact (ih _ _).trans (Node.file?_set_empty hf hl other)
          · rfl
        · exact ih _ _
        · rfl
    · rfl
    · rfl

lemma makeFolders_sameOutside (area : Option (List String)) :
    SameOutside area disk (disk.makeFolders path).1 := by
  unfold makeFolders
  split
  · exact .refl _ _
  · exact fun place _ => makeSteps_file? _ _ _ place

@[simp] lemma working_makeFolders : (disk.makeFolders path).1.working = disk.working := by
  unfold makeFolders
  split <;> rfl

lemma removeFolder_sameOutside :
    SameOutside (disk.placeOf path) disk (disk.removeFolder path).1 := by
  unfold removeFolder
  split
  · exact .refl _ _
  · next place hr =>
    rw [placeOf_of_resolve hr]
    split
    · dsimp only
      repeat' split
      all_goals exact shrunk_sameOutside disk _
    · exact .refl _ _
    · exact .refl _ _

lemma follows_shrunk (root : Node) : Follows disk (disk.shrunk root) :=
  fun _ h => (Option.filter_eq_some_iff.mp h).1

lemma follows_removeFolder : Follows disk (disk.removeFolder path).1 := by
  unfold removeFolder
  split
  · exact .refl _
  · split
    · dsimp only
      repeat' split
      all_goals exact follows_shrunk disk _
    · exact .refl _
    · exact .refl _

lemma put_sameOutside (content : Option ByteArray) :
    SameOutside (disk.placeOf path) disk (disk.put path content) := by
  cases content with
  | none => exact makeFolders_sameOutside disk path _
  | some bytes =>
    have hmade := makeFolders_sameOutside disk (parentPath path) (disk.placeOf path)
    have hw := working_makeFolders disk (parentPath path)
    unfold put
    dsimp only
    split
    · next made _ he =>
      rw [he] at hmade
      exact hmade
    · next made he =>
      rw [he] at hmade hw
      split
      · next place ht =>
        refine hmade.trans ?_
        rw [(follows_of_eq hw).placeOf (placeOf_of_target ht)]
        exact graft_sameOutside made place _
      · exact hmade

@[simp] lemma working_put (content : Option ByteArray) :
    (disk.put path content).working = disk.working := by
  cases content with
  | none => exact working_makeFolders disk path
  | some bytes =>
    have hw := working_makeFolders disk (parentPath path)
    unfold put
    dsimp only
    split
    · next made _ he => rwa [he] at hw
    · next made he =>
      rw [he] at hw
      split
      · exact hw
      · exact hw

variable {path}

lemma working_putAll (items : List (String × Option ByteArray)) :
    (disk.putAll items).working = disk.working := by
  induction items generalizing disk with
  | nil => rfl
  | cons item items ih => exact (ih _).trans (working_put disk item.1 item.2)

lemma putAll_sameOutside (items : List (String × Option ByteArray))
    (h : ∀ item ∈ items, ∀ place, disk.placeOf item.1 = some place → Inside area place) :
    SameOutside area disk (disk.putAll items) := by
  induction items generalizing disk with
  | nil => exact .refl _ _
  | cons item items ih =>
    have hp := (put_sameOutside disk item.1 item.2).mono (h item List.mem_cons_self)
    have hf := follows_of_eq (working_put disk item.1 item.2)
    exact hp.trans (ih _ fun other ho place hplace =>
      h other (List.mem_cons_of_mem _ ho) place (hf.placeOf hplace))

end Operations

end ApkAudit.Disk
