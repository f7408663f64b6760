import ApkAudit.Proofs.Disk.Below

/-! Paths that lead to a node, and what is read and written through them.  Writing below a subfolder
gives what it would give on a disk with nothing but the content of this subfolder. -/

namespace ApkAudit.Disk

open Node (setEntry)

structure LeadsTo (disk : Disk) (path : String) (place : List String) (node : Node) : Prop where
  walks : ∃ origin, disk.start path = some origin ∧ walk disk.root origin (steps path) = .ok place
  stands : disk.root.find? place = some node

/-- On its way a path never passes below the place where it ends. -/
def Straight (disk : Disk) (path : String) (place : List String) : Prop :=
  ∀ origin, disk.start path = some origin → ∀ front, front <+: steps path →
    place <+: descend origin front → descend origin front = place

lemma Straight.of_follows {before after : Disk} {path : String} {place : List String}
    (h : Straight before path place) (hf : Follows before after) : Straight after path place :=
  fun origin ho => h origin (hf.start ho)

/-- A folder as a disk of its own. -/
def ofEntries (entries : List (String × Node)) : Disk :=
  { root := .folder true entries, working := some [] }

structure LeadsDown (path : String) : Prop where
  relative : Path.isAbsolute path = false
  steps_ne_nil : steps path ≠ []
  plain : ".." ∉ steps path

instance (path : String) : Decidable (LeadsDown path) :=
  decidable_of_iff
    (Path.isAbsolute path = false ∧ steps path ≠ [] ∧ ".." ∉ steps path)
    ⟨fun h => ⟨h.1, h.2.1, h.2.2⟩, fun h => ⟨h.relative, h.steps_ne_nil, h.plain⟩⟩

variable {disk : Disk} {path name : String} {place : List String} {writable : Bool}
  {entries inner : List (String × Node)} {node : Node}

lemma leadsDown_of_ordinary (h : Path.IsOrdinary name) : LeadsDown name := by
  have hs : steps name = [name] := steps_step ⟨h.1, h.2.1, h.2.2.1⟩
  exact ⟨Path.isAbsolute_of_ordinary h, by simp [hs], by simpa [hs] using h.2.2.2.symm⟩

lemma taken_of_fits {content : ByteArray} (h : disk.fits content = true) :
    disk.taken content = content := by
  unfold fits at h
  unfold taken
  cases hs : disk.space with
  | none => rfl
  | some bytes =>
    have hle : content.size ≤ bytes := by simpa [hs] using h
    exact ByteArray.ext (by simp [hle])

lemma size_taken_lt {content : ByteArray} (h : disk.fits content = false) :
    (disk.taken content).size < content.size := by
  unfold fits at h
  unfold taken
  cases hs : disk.space with
  | none => simp [hs] at h
  | some bytes =>
    have hlt : bytes < content.size := by simpa [hs] using h
    simp only [ByteArray.size_extract]
    omega

lemma graft_graft (disk : Disk) (place : List String) (node new : Node) :
    (disk.graft place node).graft place new = disk.graft place new := by
  simp only [graft, Node.set_some_set_some]

lemma start_join_relative (disk : Disk) (base : String) {path : String}
    (h : Path.isAbsolute path = false) : disk.start (Path.join base path) = disk.start base := by
  simp only [start, Path.isAbsolute_join_relative base h]

lemma needsFolder_join_ordinary (path : String) (ho : Path.IsOrdinary name) :
    needsFolder (Path.join path name) = false := by
  rw [needsFolder_join path (Path.isAbsolute_of_ordinary ho)]
  simp [needsFolder, Text.split, Text.splitChar_of_not_mem ho.2.1, ho.1, ho.2.2.1]

namespace LeadsTo

lemma placeOf_eq (h : LeadsTo disk path place node) : disk.placeOf path = some place := by
  obtain ⟨origin, ho, hw⟩ := h.walks
  rw [placeOf, ho, Option.map_some, walk_descend hw]

lemma hasFolder (h : LeadsTo disk path place (.folder writable entries)) :
    disk.root.HasFolder place :=
  ⟨writable, entries, h.stands⟩

lemma set_of_avoids {after : Disk} (h : LeadsTo disk path place (.folder writable entries))
    (name : String) (value : Option Node)
    (hroot : after.root = disk.root.set value (place ++ [name]))
    (hstart : after.start path = disk.start path)
    (hk : ∀ origin, disk.start path = some origin → ∀ front, front <+: steps path →
      disk.root.HasFolder (descend origin front) → ¬ place ++ [name] <+: descend origin front) :
    LeadsTo after path place (.folder writable (setEntry name value entries)) where
  walks := by
    obtain ⟨origin, ho, hw⟩ := h.walks
    refine ⟨origin, hstart.trans ho, ?_⟩
    rw [hroot]
    refine walk_of_folders (fun front hf hfolder => ?_) hw h.hasFolder
    exact Node.hasFolder_set (hk origin ho front hf hfolder) hfolder value
  stands := by
    rw [hroot]
    exact Node.find?_set_child h.stands name value

lemma not_below_of_straight (hs : Straight disk path place) {origin front : List String}
    (ho : disk.start path = some origin) (hf : front <+: steps path) :
    ¬ place ++ [name] <+: descend origin front := by
  intro hp
  have he := hs origin ho front hf ((List.prefix_append place [name]).trans hp)
  have hl : (place ++ [name]).length ≤ place.length := he ▸ hp.length_le
  rw [List.length_append, List.length_singleton] at hl
  omega

lemma graft (h : LeadsTo disk path place (.folder writable entries)) (hs : Straight disk path place)
    (name : String) (node : Node) :
    LeadsTo (disk.graft (place ++ [name]) node) path place
      (.folder writable (setEntry name (some node) entries)) :=
  h.set_of_avoids name (some node) rfl rfl fun _ ho _ hf _ => not_below_of_straight hs ho hf

lemma shrunk (h : LeadsTo disk path place (.folder writable entries))
    (hs : Straight disk path place) (name : String) :
    LeadsTo (disk.shrunk (disk.root.set none (place ++ [name]))) path place
      (.folder writable (setEntry name none entries)) := by
  refine h.set_of_avoids name none rfl ?_ fun _ ho _ hf _ => not_below_of_straight hs ho hf
  obtain ⟨origin, ho, hw⟩ := h.walks
  have hstays : (disk.root.set none (place ++ [name])).HasFolder origin :=
    Node.hasFolder_set (not_below_of_straight hs ho List.nil_prefix)
      (hasFolder_of_walk hw h.hasFolder) none
  obtain ⟨w, inner, hi⟩ := hstays
  unfold Disk.start at ho ⊢
  split
  · rfl
  · next ha =>
    rw [if_neg ha] at ho
    simp [Disk.shrunk, ho, hi]

lemma find?_child (h : LeadsTo disk path place (.folder writable entries)) (name : String) :
    disk.root.find? (place ++ [name]) = entries.lookup name :=
  Node.find?_child h.stands name

lemma graft_leaf (h : LeadsTo disk path place (.folder writable entries))
    (hl : ∀ w inner, entries.lookup name ≠ some (.folder w inner)) (node : Node) :
    LeadsTo (disk.graft (place ++ [name]) node) path place
      (.folder writable (setEntry name (some node) entries)) := by
  refine h.set_of_avoids name (some node) rfl rfl fun origin _ front _ hfolder hp => ?_
  obtain ⟨more, hm⟩ := hp
  obtain ⟨w, inner, hi⟩ := hfolder
  rw [← hm, Node.find?_append, h.find?_child] at hi
  obtain ⟨child, hc, hin⟩ := Option.bind_eq_some_iff.mp hi
  -- only a folder has anything below it
  cases child with
  | folder w inside => exact hl w inside hc
  | file content => cases more <;> simp [Node.find?, Node.entry?] at hin
  | locked size => cases more <;> simp [Node.find?, Node.entry?] at hin

lemma walk_child {origin : List String} (h : LeadsTo disk path place (.folder writable entries))
    (ho : Path.IsOrdinary name) (hstart : disk.start path = some origin) :
    walk disk.root origin (steps (Path.join path name)) =
      if (entries.lookup name).isSome then .ok (place ++ [name]) else .error .notFound := by
  obtain ⟨found, hf, hw⟩ := h.walks
  obtain rfl : found = origin := Option.some.inj (hf.symm.trans hstart)
  rw [steps_join path ho, walk_append, hw]
  show walk disk.root place [name] = _
  simp only [walk, h.stands, ho.2.2.2, if_false]

lemma child (h : LeadsTo disk path place (.folder writable entries)) (ho : Path.IsOrdinary name)
    (hl : entries.lookup name = some node) :
    LeadsTo disk (Path.join path name) (place ++ [name]) node where
  walks := by
    obtain ⟨origin, hstart, _⟩ := h.walks
    refine ⟨origin, (start_join disk path ho).trans hstart, ?_⟩
    simp [h.walk_child ho hstart, hl]
  stands := (h.find?_child name).trans hl

lemma resolve_child (h : LeadsTo disk path place (.folder writable entries))
    (ho : Path.IsOrdinary name) :
    disk.resolve (Path.join path name) =
      if (entries.lookup name).isSome then .ok (place ++ [name]) else .error .notFound := by
  have hne : Path.join path name ≠ "" := by
    intro he
    have hp := Path.pieces_join path ho
    simp [he] at hp
  obtain ⟨origin, hstart, _⟩ := h.walks
  unfold resolve
  rw [start_join disk path ho, hstart]
  dsimp only
  rw [if_neg hne, h.walk_child ho hstart, needsFolder_join_ordinary path ho]
  cases entries.lookup name <;> simp

lemma get_child (h : LeadsTo disk path place (.folder writable entries))
    (ho : Path.IsOrdinary name) :
    disk.get (Path.join path name) =
      match entries.lookup name with
      | some node => .ok node
      | none => .error .notFound := by
  have hr := h.resolve_child ho
  unfold get
  cases hl : entries.lookup name with
  | none =>
    rw [hl] at hr
    rw [hr]
    rfl
  | some node =>
    rw [hl] at hr
    rw [hr]
    simp only [Option.isSome_some, if_true, bind, Except.bind, h.find?_child, hl]

lemma unique {place' : List String} {node' : Node} (h : LeadsTo disk path place node)
    (h' : LeadsTo disk path place' node') : place = place' ∧ node = node' := by
  obtain rfl : place = place' := Option.some.inj (h.placeOf_eq.symm.trans h'.placeOf_eq)
  exact ⟨rfl, Option.some.inj (h.stands.symm.trans h'.stands)⟩

end LeadsTo

lemma leadsTo_of_get (h : disk.get path = .ok node) : ∃ place, LeadsTo disk path place node := by
  obtain ⟨place, hr, hg⟩ := Outcome.of_bind_ok h
  refine ⟨place, walk_of_resolve hr, ?_⟩
  cases hx : disk.root.find? place with
  | none => simp [hx] at hg
  | some found => simpa [hx] using hg

lemma leadsTo_of_walk_join {origin p : List String} (ho : Path.IsOrdinary name)
    (hs : disk.start path = some origin)
    (h : walk disk.root origin (steps (Path.join path name)) = .ok p) :
    ∃ place writable entries, LeadsTo disk path place (.folder writable entries) ∧
      disk.root.find? p = entries.lookup name := by
  have hw := h
  rw [steps_join path ho] at hw
  obtain ⟨place, hq, writable, entries, he⟩ :=
    hasFolder_of_walk_append (List.cons_ne_nil name []) hw
  have hl : LeadsTo disk path place (.folder writable entries) := ⟨⟨origin, hs, hq⟩, he⟩
  refine ⟨place, writable, entries, hl, ?_⟩
  rw [hl.walk_child ho hs] at h
  split at h
  · rw [← Except.ok.inj h, hl.find?_child]
  · cases h

lemma LeadsTo.parent (h : LeadsTo disk (Path.join path name) place node)
    (ho : Path.IsOrdinary name) :
    ∃ above writable entries, LeadsTo disk path above (.folder writable entries) ∧
      entries.lookup name = some node := by
  obtain ⟨origin, hs, hw⟩ := h.walks
  obtain ⟨above, writable, entries, hl, he⟩ :=
    leadsTo_of_walk_join ho ((start_join disk path ho).symm.trans hs) hw
  exact ⟨above, writable, entries, hl, he.symm.trans h.stands⟩

lemma leadsTo_of_get_join (ho : Path.IsOrdinary name)
    (h : disk.get (Path.join path name) = .ok node) :
    ∃ place writable entries, LeadsTo disk path place (.folder writable entries) ∧
      entries.lookup name = some node := by
  obtain ⟨_, hl⟩ := leadsTo_of_get h
  exact hl.parent ho

lemma readBytes_target {content : ByteArray} (ho : Path.IsOrdinary name)
    (h : disk.target (Path.join path name) = .ok place) :
    (disk.graft place (.file content)).readBytes (Path.join path name) = .ok content := by
  obtain ⟨origin, folder, last, hs, hlast, _, hw, ⟨writable, entries, hf, hl⟩, rfl⟩ := target_ok h
  rw [steps_join path ho] at hlast hw
  obtain rfl : name = last := by simpa using hlast
  rw [List.dropLast_concat] at hw
  have hlead : LeadsTo disk path folder (.folder writable entries) :=
    ⟨⟨origin, (start_join disk path ho).symm.trans hs, hw⟩, hf⟩
  have hg := (hlead.graft_leaf hl (.file content)).get_child ho
  rw [Node.lookup_setEntry_self] at hg
  rw [readBytes, hg]
  rfl

lemma straight_of_empty (h : LeadsTo disk path place (.folder writable [])) :
    Straight disk path place := by
  rintro origin ho front ⟨rest, hr⟩ ⟨more, hm⟩
  obtain ⟨found, hf, hw⟩ := h.walks
  obtain rfl : found = origin := Option.some.inj (hf.symm.trans ho)
  rw [← hr, walk_append] at hw
  obtain ⟨p, hp, hrest⟩ := Outcome.of_bind_ok hw
  obtain ⟨w, entries, he⟩ := hasFolder_of_walk hrest h.hasFolder
  rw [← walk_descend hp, ← hm, Node.find?_append, h.stands] at he
  rw [← hm]
  cases more with
  | nil => exact List.append_nil place
  | cons m ms => simp [Node.find?, Node.entry?] at he

section Writing

lemma put_none (disk : Disk) (path : String) : disk.put path none = (disk.makeFolders path).1 := rfl

lemma put_some (disk : Disk) (path : String) (bytes : ByteArray) :
    disk.put path (some bytes) =
      match disk.makeFolders (parentPath path) with
      | (made, some _) => made
      | (made, none) =>
        match made.target path with
        | .ok place => made.graft place (.file bytes)
        | .error _ => made := rfl

lemma makeFolders_eq {origin : List String} (h : disk.start path = some origin) :
    disk.makeFolders path = ({ disk with root := (makeSteps disk.root origin (steps path)).1 },
      (makeSteps disk.root origin (steps path)).2) := by
  unfold makeFolders
  rw [h]

lemma makeFolders_of_leadsTo (h : LeadsTo disk path place (.folder writable entries)) :
    disk.makeFolders path = (disk, none) := by
  obtain ⟨origin, hs, hw⟩ := h.walks
  rw [makeFolders_eq hs, makeSteps_of_walk hw h.hasFolder]

lemma put_child (h : LeadsTo disk path place (.folder true entries)) (ho : Path.IsOrdinary name)
    (hl : entries.lookup name = none) :
    disk.put (Path.join path name) none = disk.graft (place ++ [name]) .empty := by
  obtain ⟨origin, hs, hw⟩ := h.walks
  have hm : makeSteps disk.root origin (steps (Path.join path name)) =
      (disk.root.set (some .empty) (place ++ [name]), none) := by
    rw [steps_join path ho, makeSteps_append [name] (makeSteps_of_walk hw h.hasFolder),
      walk_descend hw]
    simp only [makeSteps, h.stands, ho.2.2.2, hl, if_false, if_true]
  rw [put_none, makeFolders_eq ((start_join disk path ho).trans hs), hm]
  rfl

lemma put_made {made : Disk} (hm : disk.makeFolders path = (made, none))
    (h : LeadsTo made path place (.folder true [])) (ho : Path.IsOrdinary name) :
    disk.put (Path.join path name) none = made.put (Path.join path name) none := by
  have hwork : made.working = disk.working := by
    have hw := working_makeFolders disk path
    rwa [hm] at hw
  obtain ⟨origin, hs, hw⟩ := h.walks
  have hs' : disk.start path = some origin := (start_congr hwork path).symm.trans hs
  rw [makeFolders_eq hs'] at hm
  obtain ⟨hroot, hnone⟩ := Prod.mk.inj hm
  have hx : makeSteps disk.root origin (steps path) = (made.root, none) :=
    Prod.ext (congrArg Disk.root hroot) hnone
  have hmade : makeSteps made.root origin (steps path) = (made.root, none) :=
    makeSteps_of_walk hw h.hasFolder
  rw [put_none, put_none, makeFolders_eq ((start_join disk path ho).trans hs'),
    makeFolders_eq ((start_join made path ho).trans hs), steps_join path ho,
    makeSteps_append [name] hx, makeSteps_append [name] hmade, ← hroot]

lemma makeFolders_below (h : LeadsTo disk path place (.folder writable inner)) {made : String}
    {below : List String} (hs : steps made = steps path ++ below)
    (ha : disk.start made = disk.start path) (hb : ".." ∉ below) :
    disk.makeFolders made =
      (disk.graft place (makeSteps (.folder writable inner) [] below).1,
        (makeSteps (.folder writable inner) [] below).2) := by
  obtain ⟨origin, hstart, hw⟩ := h.walks
  have hm : makeSteps disk.root origin (steps made) = makeSteps disk.root (place ++ []) below := by
    rw [hs, makeSteps_append below (makeSteps_of_walk hw h.hasFolder), walk_descend hw,
      List.append_nil]
  rw [makeFolders_eq (ha.trans hstart), hm, makeSteps_below h.stands hb]
  rfl

lemma target_below (h : LeadsTo disk path place (.folder true inner)) {below : String}
    (hb : LeadsDown below) :
    disk.target (Path.join path below) = ((ofEntries inner).target below).map (place ++ ·) := by
  obtain ⟨front, last, hl⟩ := (List.eq_nil_or_concat (steps below)).resolve_left hb.steps_ne_nil
  rw [List.concat_eq_append] at hl
  obtain ⟨origin, hstart, hwalk⟩ := h.walks
  have hs : steps (Path.join path below) = steps path ++ front ++ [last] := by
    rw [steps_join_relative path hb.relative, hl, List.append_assoc]
  have hfront : ".." ∉ front := fun hm => hb.plain (by rw [hl]; exact List.mem_append_left _ hm)
  have hw : walk disk.root origin (steps path ++ front) =
      (walk (.folder true inner) [] front).map (place ++ ·) := by
    rw [walk_append, hwalk]
    show walk disk.root place front = _
    rw [← walk_below h.stands hfront, List.append_nil]
  have hown : (ofEntries inner).start below = some [] := by simp [start, hb.relative, ofEntries]
  unfold target
  rw [start_join_relative disk path hb.relative, hstart, hown, hs, hl,
    needsFolder_join path hb.relative]
  simp only [List.getLast?_concat, List.dropLast_concat, hw]
  show _ = Except.map _ (walk (.folder true inner) [] front >>= _)
  cases walk (.folder true inner) [] front with
  | error e => rfl
  | ok found =>
    have hf : disk.root.find? (place ++ found) = (Node.folder true inner).find? found := by
      rw [Node.find?_append, h.stands]
      rfl
    simp only [Except.map, bind, Except.bind, hf, ofEntries]
    split
    · split
      · rfl
      · split
        · rfl
        · rfl
        · split
          · rfl
          · simp only [List.append_assoc]
        · split
          · rfl
          · split
            · simp only [List.append_assoc]
            · rfl
    · rfl
    · rfl

lemma graft_self (h : LeadsTo disk path place node) : disk.graft place node = disk := by
  unfold graft
  rw [Node.set_of_find? h.stands]

lemma makeSteps_folder (writable : Bool) (inner : List (String × Node))
    (place names : List String) :
    ∃ entries, (makeSteps (.folder writable inner) place names).1 = .folder writable entries := by
  induction names generalizing inner place with
  | nil => exact ⟨inner, rfl⟩
  | cons step rest ih =>
    unfold makeSteps
    split
    · split
      · exact ih inner _
      · split
        · split
          · obtain ⟨first, names, hp⟩ := List.exists_cons_of_ne_nil
              (List.append_ne_nil_of_right_ne_nil place (List.cons_ne_nil step []))
            obtain ⟨changed, hc⟩ := Node.set_folder (some .empty) first names writable inner
            rw [hp, hc]
            exact ih changed _
          · exact ⟨inner, rfl⟩
        · exact ih inner _
        · exact ⟨inner, rfl⟩
    · exact ⟨inner, rfl⟩
    · exact ⟨inner, rfl⟩

lemma graft_graft_append {rest : List String} (h : LeadsTo disk path place node) (hr : rest ≠ [])
    (made new : Node) :
    (disk.graft place made).graft (place ++ rest) new =
      disk.graft place (made.set (some new) rest) := by
  have hf : (disk.root.set (some made) place).find? place = some made :=
    Node.find?_set_place h.stands made
  simp only [graft, Node.set_append hr hf, Node.set_some_set_some]

lemma makeFolders_ofEntries (inner : List (String × Node)) {path : String}
    (h : Path.isAbsolute path = false) :
    ∃ made, (makeSteps (.folder true inner) [] (steps path)).1 = .folder true made ∧
      (ofEntries inner).makeFolders path =
        (ofEntries made, (makeSteps (.folder true inner) [] (steps path)).2) := by
  obtain ⟨made, hm⟩ := makeSteps_folder true inner [] (steps path)
  refine ⟨made, hm, ?_⟩
  have hs : (ofEntries inner).start path = some [] := by simp [start, h, ofEntries]
  rw [makeFolders_eq hs]
  show ({ ofEntries inner with root := (makeSteps (.folder true inner) [] (steps path)).1 }, _) = _
  rw [hm]
  rfl

lemma graft_ofEntries (inner : List (String × Node)) {place : List String} (h : place ≠ [])
    (node : Node) : ∃ changed, (ofEntries inner).graft place node = ofEntries changed := by
  obtain ⟨first, names, rfl⟩ := List.exists_cons_of_ne_nil h
  obtain ⟨changed, hc⟩ := Node.set_folder (some node) first names true inner
  exact ⟨changed, congrArg (fun root => { ofEntries inner with root := root }) hc⟩

lemma put_ofEntries (inner : List (String × Node)) {path : String}
    (h : Path.isAbsolute path = false) (content : Option ByteArray) :
    ∃ changed, (ofEntries inner).put path content = ofEntries changed := by
  cases content with
  | none =>
    obtain ⟨made, _, hm⟩ := makeFolders_ofEntries inner h
    exact ⟨made, by rw [put_none, hm]⟩
  | some bytes =>
    obtain ⟨made, _, hm⟩ := makeFolders_ofEntries inner ((steps_parentPath path).2.trans h)
    rw [put_some, hm]
    split
    · next he => exact ⟨made, (Prod.mk.inj he).1.symm⟩
    · next he =>
      rw [← (Prod.mk.inj he).1]
      cases ht : (ofEntries made).target path with
      | error e => exact ⟨made, rfl⟩
      | ok found =>
        obtain ⟨_, folder, last, _, _, _, _, _, rfl⟩ := target_ok ht
        exact graft_ofEntries made (by simp) _

lemma putAll_ofEntries (inner : List (String × Node)) (items : List (String × Option ByteArray))
    (h : ∀ item ∈ items, Path.isAbsolute item.1 = false) :
    ∃ changed, (ofEntries inner).putAll items = ofEntries changed := by
  induction items generalizing inner with
  | nil => exact ⟨inner, rfl⟩
  | cons item items ih =>
    obtain ⟨made, hm⟩ := put_ofEntries inner (h item List.mem_cons_self) item.2
    obtain ⟨changed, hc⟩ := ih made fun other ho => h other (List.mem_cons_of_mem _ ho)
    refine ⟨changed, ?_⟩
    show ((ofEntries inner).put item.1 item.2).putAll items = _
    rw [hm, hc]

variable {below : String} (h : LeadsTo disk path place (.folder true entries))
  (hs : Straight disk path place) (ho : Path.IsOrdinary name)
  (hl : entries.lookup name = some (.folder true inner))

include h hs ho hl

lemma put_below (hb : LeadsDown below) (content : Option ByteArray) :
    disk.put (Path.join (Path.join path name) below) content =
      disk.graft (place ++ [name]) ((ofEntries inner).put below content).root := by
  have hc := h.child ho hl
  have hj := steps_join_relative (Path.join path name) hb.relative
  have hstart := start_join_relative disk (Path.join path name) hb.relative
  cases content with
  | none =>
    have hown : (ofEntries inner).start below = some [] := by simp [start, hb.relative, ofEntries]
    rw [put_none, put_none, makeFolders_below hc hj hstart hb.plain, makeFolders_eq hown]
    rfl
  | some bytes =>
    obtain ⟨hpb, hrb⟩ := steps_parentPath below
    obtain ⟨hpj, hrj⟩ := steps_parentPath (Path.join (Path.join path name) below)
    rw [hj, List.dropLast_append_of_ne_nil hb.steps_ne_nil] at hpj
    have hplain : ".." ∉ (steps below).dropLast := fun hm => hb.plain (List.dropLast_subset _ hm)
    have hparent : disk.start (parentPath (Path.join (Path.join path name) below)) =
        disk.start (Path.join path name) := by
      simp only [start, hrj, Path.isAbsolute_join_relative _ hb.relative]
    obtain ⟨made, hmade, hi⟩ := makeFolders_ofEntries inner (hrb.trans hb.relative)
    rw [hpb] at hmade hi
    rw [put_some, put_some, makeFolders_below hc hpj hparent hplain, hi, hmade]
    have htarget := target_below ((h.graft hs name (.folder true made)).child ho
      (Node.lookup_setEntry_self name _ _)) hb
    cases (makeSteps (.folder true inner) [] (steps below).dropLast).2 with
    | some e => rfl
    | none =>
      dsimp only
      rw [htarget]
      cases ht : (ofEntries made).target below with
      | error e => rfl
      | ok found =>
        obtain ⟨_, folder, last, _, _, _, _, _, rfl⟩ := target_ok ht
        exact graft_graft_append hc (by simp) _ _

lemma putAll_below (items : List (String × Option ByteArray))
    (hb : ∀ item ∈ items, LeadsDown item.1) :
    disk.putAll
        (items.map fun (below, content) => (Path.join (Path.join path name) below, content)) =
      disk.graft (place ++ [name]) ((ofEntries inner).putAll items).root := by
  induction items generalizing disk entries inner with
  | nil => exact (graft_self (h.child ho hl)).symm
  | cons item items ih =>
    obtain ⟨below, content⟩ := item
    have hput := put_below h hs ho hl (hb _ List.mem_cons_self) content
    obtain ⟨changed, hc⟩ := put_ofEntries inner (hb _ List.mem_cons_self).relative content
    rw [hc] at hput
    have hi := ih (h.graft hs name (.folder true changed)) (hs.of_follows (.refl _))
      (Node.lookup_setEntry_self name _ _) fun other hin => hb other (List.mem_cons_of_mem _ hin)
    show (disk.put (Path.join (Path.join path name) below) content).putAll _ = _
    rw [hput]
    refine hi.trans ((graft_graft disk _ _ _).trans ?_)
    show _ = disk.graft (place ++ [name]) (((ofEntries inner).put below content).putAll items).root
    rw [hc]

end Writing

end ApkAudit.Disk
