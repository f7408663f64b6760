import ApkAudit.Proofs.Package.DecodedFolder

/-! Decoded folders are used again.  Along every run of loads, a folder that has a marker holds the
whole decoding of the package whose digest the marker names: to skip the tool is to get what it
would give, and a tool that fails leaves no marker behind. -/

namespace ApkAudit

open Disk (LeadsTo Straight ofEntries)
open Node (setEntry)

namespace Decoding

/-- The packages that are loaded, and what the tool writes for each of them when it succeeds.
Digests tell these packages apart. -/
structure Supply where
  packages : ByteArray → Prop
  output : ByteArray → List (String × Option ByteArray)
  apart : ∀ {a b}, packages a → packages b →
    (Fingerprint.ofBytes a).sha256 = (Fingerprint.ofBytes b).sha256 → a = b
  below : ∀ {bytes}, packages bytes → StaysBelow (output bytes)

/-- The folder is empty, or is not there yet and would be empty if it were made. -/
def Vacant (dist : String) (disk : Disk) : Prop :=
  ∃ made, disk.makeFolders dist = (made, none) ∧ made.get dist = .ok .empty

/-- The folder is the same in two states of the disk, or vacant in both of them. -/
def Untouched (dist : String) (before after : Disk) : Prop :=
  after.working = before.working ∧
    ((∃ writable entries, before.get dist = .ok (.folder writable entries) ∧
        after.get dist = .ok (.folder writable entries)) ∨
      (Vacant dist before ∧ Vacant dist after))

lemma Untouched.symm {dist : String} {before after : Disk} (h : Untouched dist before after) :
    Untouched dist after before :=
  ⟨h.1.symm, h.2.imp (fun ⟨writable, entries, hb, ha⟩ => ⟨writable, entries, ha, hb⟩) And.symm⟩

namespace Supply

/-- What the tool may do for a package: it may fail with anything written below its folder, but if
it succeeds it has written the output for the package. -/
structure Allows (supply : Supply) (bytes : ByteArray) (decoder : Decoder) : Prop where
  below : StaysBelow decoder.files
  output : decoder.succeeds = true → decoder.files = supply.output bytes

structure Admits (supply : Supply) (dist : String) (decoding : Decoding) (machine : Machine)
    (path : String) : Prop where
  folder : decoding.folder = dist
  stem : Path.IsOrdinary (Package.fileName path)
  package : ∀ bytes, machine.disk.readBytes path = .ok bytes → supply.packages bytes
  tool : ∀ bytes, machine.disk.readBytes path = .ok bytes →
    ∀ decoder, machine.decoder = some decoder → supply.Allows bytes decoder

/-- The disks along a run of loads.  Between them anything may happen outside of the folder. -/
inductive Reached (supply : Supply) (dist : String) : Disk → Prop
  | start {disk : Disk} : Vacant dist disk → Reached supply dist disk
  | elsewhere {before after : Disk} : Reached supply dist before → Untouched dist before after →
      Reached supply dist after
  | load {decoding : Decoding} {machine : Machine} {path : String} :
      Reached supply dist machine.disk → supply.Admits dist decoding machine path →
      Reached supply dist (decoding.load machine path).value.2.disk

def IsDecoding (supply : Supply) (bytes : ByteArray) (inner : List (String × Node)) : Prop :=
  supply.output bytes ≠ [] ∧ ((ofEntries []).putAll (supply.output bytes)).write marker
    (Fingerprint.ofBytes bytes).sha256.toUTF8 = (ofEntries inner, none)

/-- The marker has been cut short, for want of room on the device. -/
def IsSpoiled (inner : List (String × Node)) : Prop :=
  ∃ content, inner.lookup marker = some (.file content) ∧ content.size < 64

def IsStored (supply : Supply) (node : Node) : Prop :=
  node.Removable ∧ ∃ inner, node = .folder true inner ∧
    ((Node.folder true inner).file? [marker] = none ∨ IsSpoiled inner ∨
      ∃ bytes, supply.packages bytes ∧ supply.IsDecoding bytes inner)

/-- Every subfolder with a full marker is the decoding of a package. -/
structure Sound (supply : Supply) (entries : List (String × Node)) : Prop where
  distinct : (entries.map Prod.fst).Nodup
  stored : ∀ entry ∈ entries, supply.IsStored entry.2

inductive Leftover (supply : Supply) (bytes : ByteArray) (decoder : Option Decoder) :
    Bool → Option Node → Prop
  | nothing : Leftover supply bytes decoder false none
  | unmarked {inner : List (String × Node)} : (Node.folder true inner).Removable →
      (Node.folder true inner).file? [marker] = none →
      Leftover supply bytes decoder false (some (.folder true inner))
  | spoiled {inner : List (String × Node)} {run : Decoder} : decoder = some run →
      run.succeeds = true → (Node.folder true inner).Removable → IsSpoiled inner →
      Leftover supply bytes decoder false (some (.folder true inner))
  | whole {inner : List (String × Node)} : supply.IsDecoding bytes inner →
      Leftover supply bytes decoder true (some (.folder true inner))

variable {supply : Supply} {dist stem : String} {top : List String} {disk : Disk}
  {entries inner : List (String × Node)} {bytes : ByteArray} {decoder : Option Decoder}
  {complete : Bool} {value : Option Node}

namespace IsDecoding

lemma eq_marked (h : supply.IsDecoding bytes inner) {written : List (String × Node)}
    (hw : (ofEntries []).putAll (supply.output bytes) = ofEntries written) :
    inner = marked (Fingerprint.ofBytes bytes).sha256.toUTF8 written := by
  have hwrite := h.2
  rw [hw, Disk.write] at hwrite
  cases ht : (ofEntries written).target marker with
  | error e => simp [ht] at hwrite
  | ok place =>
    obtain rfl := target_marker_ofEntries ht
    rw [ht] at hwrite
    have hroot := congrArg (fun outcome => outcome.1.root) hwrite
    exact (Node.folder.inj hroot).2.symm

lemma exists_marked (h : supply.IsDecoding bytes inner) (hb : supply.packages bytes) :
    ∃ written, (ofEntries []).putAll (supply.output bytes) = ofEntries written ∧
      inner = marked (Fingerprint.ofBytes bytes).sha256.toUTF8 written := by
  obtain ⟨written, hw⟩ := Disk.putAll_ofEntries [] (supply.output bytes)
    fun item hi => (supply.below hb item hi).1.relative
  exact ⟨written, hw, h.eq_marked hw⟩

lemma lookup_marker (h : supply.IsDecoding bytes inner) (hb : supply.packages bytes) :
    inner.lookup marker = some (.file (Fingerprint.ofBytes bytes).sha256.toUTF8) := by
  obtain ⟨written, _, rfl⟩ := h.exists_marked hb
  exact lookup_marked _ written

lemma removable (h : supply.IsDecoding bytes inner) (hb : supply.packages bytes) :
    (Node.folder true inner).Removable := by
  obtain ⟨written, hw, rfl⟩ := h.exists_marked hb
  have hr := removable_unpacked (supply.output bytes)
  rw [hw] at hr
  exact removable_marked hr _

end IsDecoding

namespace Sound

lemma isStored (h : supply.Sound entries) {node : Node} (hl : entries.lookup stem = some node) :
    supply.IsStored node := by
  obtain ⟨before, after, he, _⟩ := List.lookup_eq_some_iff.mp hl
  exact h.stored (stem, node) (by simp [he])

lemma empty (supply : Supply) : supply.Sound [] :=
  ⟨List.nodup_nil, by simp⟩

lemma set (h : supply.Sound entries) (hv : ∀ node, value = some node → supply.IsStored node) :
    supply.Sound (setEntry stem value entries) := by
  refine ⟨Node.nodup_setEntry h.distinct value, fun entry he => ?_⟩
  rcases Node.mem_setEntry he with hm | ⟨_, hval⟩
  · exact h.stored entry hm
  · exact hv entry.2 hval

lemma clear (h : supply.Sound entries) (hs : Straight disk dist top) (ho : Path.IsOrdinary stem)
    (hl : LeadsTo disk dist top (.folder true entries)) :
    LeadsTo (Decoding.clear disk (Path.join dist stem)).value dist top
        (.folder true (setEntry stem none entries)) ∧
      (setEntry stem none entries).lookup stem = none ∧
      supply.Sound (setEntry stem none entries) := by
  refine ⟨clear_leadsTo hs ho hl fun node hn => ?_, Node.lookup_setEntry_none h.distinct,
    h.set fun node hn => by cases hn⟩
  obtain ⟨hr, inner, he, _⟩ := h.isStored hn
  exact ⟨hr, inner, he⟩

end Sound

lemma Leftover.isStored (h : supply.Leftover bytes decoder complete value)
    (hb : supply.packages bytes) : ∀ node, value = some node → supply.IsStored node := by
  rintro node rfl
  cases h with
  | @unmarked inner hr hu => exact ⟨hr, inner, rfl, .inl hu⟩
  | @spoiled inner _ _ _ hr hc => exact ⟨hr, inner, rfl, .inr (.inl hc)⟩
  | @whole inner hd => exact ⟨hd.removable hb, inner, rfl, .inr (.inr ⟨bytes, hb, hd⟩)⟩

def Leaves (supply : Supply) (bytes : ByteArray) (decoder : Option Decoder) (dist stem : String)
    (top : List String) (entries : List (String × Node)) (outcome : Disk × Bool) : Prop :=
  ∃ value, supply.Leftover bytes decoder outcome.2 value ∧ Straight outcome.1 dist top ∧
    LeadsTo outcome.1 dist top (.folder true (setEntry stem value entries))

section Running

variable (hs : Straight disk dist top) (ho : Path.IsOrdinary stem)
  (h : LeadsTo disk dist top (.folder true entries)) (hl : entries.lookup stem = none)

include hs ho h hl

lemma leaves_of_files {run : Decoder} (ha : supply.Allows bytes run) (hne : run.files ≠ []) :
    supply.Leaves bytes (some run) dist stem top entries
      (leaves (some run) disk (Path.join dist stem) (Fingerprint.ofBytes bytes).sha256) := by
  obtain ⟨written, hw⟩ := Disk.putAll_ofEntries [] run.files
    fun item hi => (ha.below item hi).1.relative
  have hr : (ofEntries written).root.Removable := hw ▸ removable_unpacked run.files
  have hfile : (ofEntries written).root.file? [marker] = none := hw ▸ file?_marker_putAll ha.below
  have hu : Machine.unpack disk (Path.join dist stem) run.files =
      disk.graft (top ++ [stem]) (.folder true written) := by
    rw [unpack_eq hs ho h hl hne ha.below, hw]
    rfl
  have hplaced : ∀ node, Straight (disk.graft (top ++ [stem]) node) dist top ∧
      LeadsTo (disk.graft (top ++ [stem]) node) dist top
        (.folder true (setEntry stem (some node) entries)) :=
    fun node => ⟨hs.of_follows (.refl _), h.graft hs stem node⟩
  have hunmarked : supply.Leaves bytes (some run) dist stem top entries
      (disk.graft (top ++ [stem]) (.folder true written), false) :=
    ⟨_, .unmarked hr hfile, hplaced _⟩
  unfold leaves
  dsimp only
  rw [hu]
  split
  · next hsucc =>
    rcases mark_below ho (hplaced (.folder true written)).2 (Node.lookup_setEntry_self stem _ _)
      (Fingerprint.ofBytes bytes).sha256 with ⟨hwrite, hok, hdisk⟩ | ⟨_, hfail, hdisk⟩
    · rw [hok, hdisk, Disk.graft_graft]
      refine ⟨_, ?_, hplaced _⟩
      cases hfits : (disk.graft (top ++ [stem]) (.folder true written)).fits
        (Fingerprint.ofBytes bytes).sha256.toUTF8 with
      | true =>
        rw [Disk.taken_of_fits hfits]
        rw [← hw, ha.output hsucc] at hwrite
        exact .whole ⟨ha.output hsucc ▸ hne, hwrite⟩
      | false =>
        have hlt := Disk.size_taken_lt hfits
        rw [Fingerprint.size_sha256] at hlt
        exact .spoiled rfl hsucc (removable_marked hr _) ⟨_, lookup_marked _ written, hlt⟩
    · rw [hfail, hdisk]
      exact hunmarked
  · exact hunmarked

lemma leaves_leadsTo (ht : ∀ run, decoder = some run → supply.Allows bytes run) :
    supply.Leaves bytes decoder dist stem top entries
      (leaves decoder disk (Path.join dist stem) (Fingerprint.ofBytes bytes).sha256) := by
  have hnothing : supply.Leaves bytes decoder dist stem top entries (disk, false) :=
    ⟨none, .nothing, hs, (Node.setEntry_none_of_lookup hl).symm ▸ h⟩
  cases decoder with
  | none => exact hnothing
  | some run =>
    by_cases hne : run.files = []
    · obtain ⟨e, he⟩ := target_marker_of_lookup ho h hl
      rw [leaves_of_no_files hne he]
      exact hnothing
    · exact leaves_of_files hs ho h hl (ht run rfl) hne

end Running

def Absent (dist : String) (disk : Disk) : Prop :=
  ∀ place writable entries, ¬ LeadsTo disk dist place (.folder writable entries)

/-- The folder is there with sound content, or is not there yet. -/
inductive Kept (supply : Supply) (dist : String) (top : List String) (disk : Disk) : Prop
  | there {entries : List (String × Node)} : Straight disk dist top →
      LeadsTo disk dist top (.folder true entries) → supply.Sound entries →
      Kept supply dist top disk
  | absent {made : Disk} : Absent dist disk → disk.makeFolders dist = (made, none) →
      LeadsTo made dist top .empty → Kept supply dist top disk

lemma empty_of_vacant {place : List String} {writable : Bool} (h : Vacant dist disk)
    (hl : LeadsTo disk dist place (.folder writable entries)) :
    Node.folder writable entries = .empty := by
  obtain ⟨made, hm, hg⟩ := h
  obtain rfl : disk = made := (Prod.mk.inj ((Disk.makeFolders_of_leadsTo hl).symm.trans hm)).1
  obtain ⟨top, ht⟩ := Disk.leadsTo_of_get hg
  exact (hl.unique ht).2

lemma kept_of_vacant (supply : Supply) (h : Vacant dist disk) :
    ∃ top, supply.Kept dist top disk := by
  by_cases ha : Absent dist disk
  · obtain ⟨made, hm, hg⟩ := h
    obtain ⟨top, ht⟩ := Disk.leadsTo_of_get hg
    exact ⟨top, .absent ha hm ht⟩
  · obtain ⟨place, writable, entries, hl⟩ :
        ∃ place writable entries, LeadsTo disk dist place (.folder writable entries) := by
      simpa only [Absent, not_forall, not_not] using ha
    obtain ⟨rfl, rfl⟩ := Node.folder.inj (empty_of_vacant h hl)
    exact ⟨place, .there (Disk.straight_of_empty hl) hl (Sound.empty supply)⟩

section Absence

variable {made : Disk} (ha : Absent dist disk) (ho : Path.IsOrdinary stem)

include ha ho

lemma clear_absent : (clear disk (Path.join dist stem)).value = disk := by
  have hh : disk.has (Path.join dist stem) = false := by
    unfold Disk.has
    cases hg : disk.get (Path.join dist stem) with
    | error e => rfl
    | ok node =>
      obtain ⟨place, writable, entries, hl, _⟩ := Disk.leadsTo_of_get_join ho hg
      exact (ha place writable entries hl).elim
  unfold clear
  rw [hh]
  rfl

lemma isFile_marker_absent : disk.isFile (markerOf (Path.join dist stem)) = false := by
  unfold Disk.isFile
  cases hg : disk.get (markerOf (Path.join dist stem)) with
  | error e => rfl
  | ok node =>
    obtain ⟨top, writable, entries, _, _, hl, _⟩ := leadsTo_of_get_marker ho hg
    exact (ha top writable entries hl).elim

lemma target_marker_absent :
    ∃ e, disk.target (markerOf (Path.join dist stem)) = .error e := by
  cases ht : disk.target (markerOf (Path.join dist stem)) with
  | error e => exact ⟨e, rfl⟩
  | ok place =>
    obtain ⟨_, _, _, hf⟩ := leadsTo_of_target_marker ht
    obtain ⟨above, writable, entries, hl, _⟩ := hf.parent ho
    exact (ha above writable entries hl).elim

lemma leaves_absent (hm : disk.makeFolders dist = (made, none)) (ht : LeadsTo made dist top .empty)
    (decoder : Option Decoder) (digest : String) :
    leaves decoder disk (Path.join dist stem) digest = (disk, false) ∨
      leaves decoder disk (Path.join dist stem) digest =
        leaves decoder made (Path.join dist stem) digest := by
  cases decoder with
  | none => exact Or.inl rfl
  | some run =>
    by_cases hne : run.files = []
    · obtain ⟨e, he⟩ := target_marker_absent ha ho
      exact Or.inl (leaves_of_no_files hne he digest)
    · right
      have hu : Machine.unpack disk (Path.join dist stem) run.files =
          Machine.unpack made (Path.join dist stem) run.files := by
        unfold Machine.unpack
        rw [if_neg (by simpa using hne), if_neg (by simpa using hne), Disk.put_made hm ht ho]
      unfold leaves
      dsimp only
      rw [hu]

end Absence

lemma kept_leaves (ho : Path.IsOrdinary stem) (hk : supply.Kept dist top disk)
    (ht : ∀ run, decoder = some run → supply.Allows bytes run) :
    (leaves decoder (clear disk (Path.join dist stem)).value (Path.join dist stem)
        (Fingerprint.ofBytes bytes).sha256 = (disk, false) ∧ Absent dist disk) ∨
      ∃ entries, supply.Sound entries ∧ entries.lookup stem = none ∧
        supply.Leaves bytes decoder dist stem top entries
          (leaves decoder (clear disk (Path.join dist stem)).value (Path.join dist stem)
            (Fingerprint.ofBytes bytes).sha256) := by
  cases hk with
  | there hs hl hsound =>
    obtain ⟨hclear, hnone, hrest⟩ := hsound.clear hs ho hl
    have hs' := hs.of_follows (clear_sameOutside disk (Path.join dist stem)).2
    exact Or.inr ⟨_, hrest, hnone, leaves_leadsTo hs' ho hclear hnone ht⟩
  | @absent made ha hm hmade =>
    rw [clear_absent ha ho]
    rcases leaves_absent ha ho hm hmade decoder (Fingerprint.ofBytes bytes).sha256 with he | he
    · exact Or.inl ⟨he, ha⟩
    · rw [he]
      exact Or.inr ⟨[], Sound.empty supply, rfl,
        leaves_leadsTo (Disk.straight_of_empty hmade) ho hmade rfl ht⟩

variable {decoding : Decoding} {machine : Machine} {path : String}

lemma leaves_load {codeUnits : Nat} {digest : String}
    (hk : supply.Kept dist top machine.disk) (ha : supply.Admits dist decoding machine path)
    (hi : inspect machine.disk path = .ok (codeUnits, digest))
    (hr : decoding.reuses machine.disk path digest = false) :
    ∃ bytes outcome, machine.disk.readBytes path = .ok bytes ∧
      digest = (Fingerprint.ofBytes bytes).sha256 ∧
      outcome = leaves machine.decoder (clear machine.disk (decoding.folderOf path)).value
        (decoding.folderOf path) digest ∧
      (decoding.load machine path).value.2.disk = outcome.1 ∧
      ((outcome = (machine.disk, false) ∧ Absent dist machine.disk) ∨
        ∃ entries, supply.Sound entries ∧ entries.lookup (Package.fileName path) = none ∧
          supply.Leaves bytes machine.decoder dist (Package.fileName path) top entries
            outcome) := by
  obtain ⟨bytes, hb, rfl⟩ := inspect_ok hi
  have hd := (decode_leaves decoding
    { machine with disk := (clear machine.disk (decoding.folderOf path)).value } path
    (decoding.folderOf path) (Fingerprint.ofBytes bytes).sha256).1
  rw [← machine_load_decoded hi hr] at hd
  refine ⟨bytes, _, hb, rfl, rfl, hd, ?_⟩
  rw [folderOf, ha.folder]
  exact kept_leaves ha.stem hk (ha.tool bytes hb)

lemma kept_load (hk : supply.Kept dist top machine.disk)
    (ha : supply.Admits dist decoding machine path) :
    supply.Kept dist top (decoding.load machine path).value.2.disk := by
  cases hi : inspect machine.disk path with
  | error failure =>
    unfold load
    rw [hi]
    exact hk
  | ok known =>
    obtain ⟨codeUnits, digest⟩ := known
    cases hr : decoding.reuses machine.disk path digest with
    | true =>
      rw [load_reused hi hr]
      exact hk
    | false =>
      obtain ⟨bytes, outcome, hb, _, _, hdisk, hleaves⟩ := leaves_load hk ha hi hr
      rw [hdisk]
      rcases hleaves with ⟨rfl, _⟩ | ⟨entries, hsound, _, value, hv, hs, hafter⟩
      · exact hk
      · exact .there hs hafter (hsound.set (hv.isStored (ha.package bytes hb)))

lemma kept_untouched {before after : Disk} (hk : supply.Kept dist top before)
    (hu : Untouched dist before after) : ∃ top, supply.Kept dist top after := by
  obtain ⟨hwork, ⟨writable, entries, hb, ha⟩ | ⟨_, hv⟩⟩ := hu
  · obtain ⟨place, hplace⟩ := Disk.leadsTo_of_get hb
    obtain ⟨place', hplace'⟩ := Disk.leadsTo_of_get ha
    cases hk with
    | there hs hl hsound =>
      obtain ⟨rfl, he⟩ := hl.unique hplace
      obtain ⟨rfl, rfl⟩ := Node.folder.inj he
      have hsame : after.placeOf dist = before.placeOf dist := by
        rw [Disk.placeOf, Disk.placeOf, Disk.start_congr hwork]
      obtain rfl : top = place' := Option.some.inj
        (hl.placeOf_eq.symm.trans (hsame.symm.trans hplace'.placeOf_eq))
      exact ⟨top, .there (hs.of_follows (Disk.follows_of_eq hwork)) hplace' hsound⟩
    | absent habsent _ _ => exact (habsent place writable entries hplace).elim
  · exact kept_of_vacant supply hv

lemma Reached.kept (h : supply.Reached dist disk) : ∃ top, supply.Kept dist top disk := by
  induction h with
  | start hv => exact kept_of_vacant supply hv
  | elsewhere _ hu ih =>
    obtain ⟨top, hk⟩ := ih
    exact kept_untouched hk hu
  | load _ ha ih =>
    obtain ⟨top, hk⟩ := ih
    exact ⟨top, kept_load hk ha⟩

section Markers

lemma isFile_marker (ho : Path.IsOrdinary stem)
    (h : disk.isFile (markerOf (Path.join dist stem)) = true) :
    ∃ top around entries writable inner, LeadsTo disk dist top (.folder around entries) ∧
      entries.lookup stem = some (.folder writable inner) ∧
      (Node.folder writable inner).file? [marker] ≠ none := by
  unfold Disk.isFile at h
  cases hg : disk.get (markerOf (Path.join dist stem)) with
  | error e => simp [hg] at h
  | ok node =>
    obtain ⟨top, around, entries, writable, inner, hl, hi, hn⟩ := leadsTo_of_get_marker ho hg
    have hf : node.isFile = true := by simpa [hg] using h
    refine ⟨top, around, entries, writable, inner, hl, hi, ?_⟩
    simp [Node.file?, Node.find?, Node.entry?, hn, hf]

lemma unmarked_leftover (ho : Path.IsOrdinary stem)
    (hl : LeadsTo disk dist top (.folder true (setEntry stem value entries)))
    (hn : entries.lookup stem = none) (hv : supply.Leftover bytes decoder false value)
    (hfail : ∀ run, decoder = some run → run.succeeds = false) :
    disk.isFile (markerOf (Path.join dist stem)) = false := by
  by_contra hm
  obtain ⟨_, _, found, _, inner, hfound, hi, hmarker⟩ := isFile_marker ho (by simpa using hm)
  obtain ⟨_, he⟩ := hl.unique hfound
  obtain ⟨_, rfl⟩ := Node.folder.inj he
  cases hv with
  | nothing =>
    rw [Node.setEntry_none_of_lookup hn, hn] at hi
    cases hi
  | unmarked _ hu =>
    rw [Node.lookup_setEntry_self] at hi
    rw [Option.some.inj hi] at hu
    exact hmarker hu
  | spoiled hd hs _ _ =>
    rw [hfail _ hd] at hs
    cases hs

lemma IsDecoding.isDecoded (h : supply.IsDecoding bytes inner) (hb : supply.packages bytes)
    (ho : Path.IsOrdinary stem) (hl : LeadsTo disk dist top (.folder true entries))
    (hi : entries.lookup stem = some (.folder true inner)) :
    isDecoded disk (Path.join dist stem) (Fingerprint.ofBytes bytes).sha256 = true := by
  rw [isDecoded_eq ho hl hi (h.lookup_marker hb)]
  exact beq_self_eq_true _

lemma get_marker_untouched {before after : Disk} {node : Node} (ho : Path.IsOrdinary stem)
    (hu : Untouched dist before after)
    (h : before.get (markerOf (Path.join dist stem)) = .ok node) :
    after.get (markerOf (Path.join dist stem)) = .ok node := by
  obtain ⟨place, _, found, _, inner, hfound, hi, hn⟩ := leadsTo_of_get_marker ho h
  obtain ⟨_, ⟨writable, entries, hbefore, hafter⟩ | ⟨hv, _⟩⟩ := hu
  · obtain ⟨_, hl⟩ := Disk.leadsTo_of_get hbefore
    obtain ⟨_, hl'⟩ := Disk.leadsTo_of_get hafter
    obtain ⟨_, he⟩ := hl.unique hfound
    obtain ⟨_, rfl⟩ := Node.folder.inj he
    rw [markerOf, (hl'.child ho hi).get_child marker_ordinary, hn]
  · obtain ⟨_, rfl⟩ := Node.folder.inj (empty_of_vacant hv hfound)
    cases hi

lemma unmarked_untouched {before after : Disk} (ho : Path.IsOrdinary stem)
    (hb : before.isFile (markerOf (Path.join dist stem)) = false)
    (hu : Untouched dist before after) :
    after.isFile (markerOf (Path.join dist stem)) = false := by
  unfold Disk.isFile at hb ⊢
  cases hg : after.get (markerOf (Path.join dist stem)) with
  | error e => rfl
  | ok node =>
    rw [get_marker_untouched ho hu.symm hg] at hb
    exact hb

lemma isDecoded_untouched {before after : Disk} {digest : String} (ho : Path.IsOrdinary stem)
    (hd : isDecoded before (Path.join dist stem) digest = true)
    (hu : Untouched dist before after) :
    isDecoded after (Path.join dist stem) digest = true := by
  have hf := isFile_of_isDecoded hd
  unfold Disk.isFile at hf
  cases hg : before.get (markerOf (Path.join dist stem)) with
  | error e => simp [hg] at hf
  | ok node =>
    have hg' := get_marker_untouched ho hu hg
    unfold isDecoded Disk.readText Disk.readBytes at hd ⊢
    rw [hg']
    rw [hg] at hd
    exact hd

end Markers

lemma mark_unpack (hs : Straight disk dist top) (ho : Path.IsOrdinary stem)
    (h : LeadsTo disk dist top (.folder true entries)) (hl : entries.lookup stem = none)
    (hb : supply.packages bytes) (hd : supply.IsDecoding bytes inner)
    (hfits : disk.fits (Fingerprint.ofBytes bytes).sha256.toUTF8 = true) :
    ∃ after, mark (Machine.unpack disk (Path.join dist stem) (supply.output bytes))
        (Path.join dist stem) (Fingerprint.ofBytes bytes).sha256 = (.ok (), after) ∧
      LeadsTo after dist top
        (.folder true (setEntry stem (some (.folder true inner)) entries)) := by
  obtain ⟨written, hw, rfl⟩ := hd.exists_marked hb
  have hwrite := hd.2
  have hplaced := h.graft hs stem (.folder true written)
  have hroom : (disk.graft (top ++ [stem]) (.folder true written)).fits
      (Fingerprint.ofBytes bytes).sha256.toUTF8 = true := hfits
  rw [unpack_eq hs ho h hl hd.1 (supply.below hb), hw]
  refine ⟨disk.graft (top ++ [stem]) (.folder true (marked _ written)), ?_, h.graft hs stem _⟩
  rcases mark_below ho hplaced (Node.lookup_setEntry_self stem _ _)
    (Fingerprint.ofBytes bytes).sha256 with ⟨_, hok, hdisk⟩ | ⟨hsome, _⟩
  · rw [Disk.graft_graft, Disk.taken_of_fits hroom] at hdisk
    rw [hroom] at hok
    refine Prod.ext ?_ hdisk
    cases hout : (mark (disk.graft (top ++ [stem]) (.folder true written)) (Path.join dist stem)
      (Fingerprint.ofBytes bytes).sha256).1 with
    | ok done => exact hout
    | error failure => simp [hout, Except.isOk, Except.toBool] at hok
  · rw [hw] at hwrite
    rw [hwrite] at hsome
    cases hsome

lemma isDecoding_of_isDecoded (ho : Path.IsOrdinary stem) (hk : supply.Kept dist top disk)
    (hb : supply.packages bytes)
    (hd : isDecoded disk (Path.join dist stem) (Fingerprint.ofBytes bytes).sha256 = true) :
    ∃ entries inner, Straight disk dist top ∧ LeadsTo disk dist top (.folder true entries) ∧
      supply.Sound entries ∧ entries.lookup stem = some (.folder true inner) ∧
      supply.IsDecoding bytes inner := by
  obtain ⟨place, around, found, _, inner, hfound, hi, hmarker⟩ :=
    isFile_marker ho (isFile_of_isDecoded hd)
  cases hk with
  | absent ha _ _ => exact (ha place around found hfound).elim
  | there hs hl hsound =>
    obtain ⟨rfl, he⟩ := hl.unique hfound
    obtain ⟨rfl, rfl⟩ := Node.folder.inj he
    obtain ⟨_, inner, he, hkind⟩ := hsound.isStored hi
    obtain ⟨rfl, rfl⟩ := Node.folder.inj he
    rcases hkind with hu | ⟨content, hm, hc⟩ | ⟨other, hother, hdec⟩
    · exact (hmarker hu).elim
    · rw [isDecoded_of_short ho hl hi hm hc] at hd
      cases hd
    · rw [isDecoded_eq ho hl hi (hdec.lookup_marker hother)] at hd
      -- the marker names a package with the same digest, so it is the same package
      obtain rfl := supply.apart hother hb (eq_of_beq hd)
      exact ⟨_, _, hs, hl, hsound, hi, hdec⟩

end Supply

structure Reliable (supply : Supply) (decoding : Decoding) (machine : Machine) (path : String) :
    Prop where
  /-- A load without the tool returns what a forced load would return, with a tool that works and
  room for its marker. -/
  reused : Skips decoding machine path → ∀ bytes decoder,
    machine.disk.readBytes path = .ok bytes → decoder.succeeds = true →
    decoder.files = supply.output bytes →
    machine.disk.fits (Fingerprint.ofBytes bytes).sha256.toUTF8 = true →
    (decoding.load machine path).value.1 =
      ({ decoding with force := true }.load { machine with decoder := some decoder } path).value.1
  forced : decoding.force = true → ¬ Skips decoding machine path
  started : (∃ known, inspect machine.disk path = .ok known) → ¬ Skips decoding machine path →
    Starts decoding machine path
  /-- Once a load has returned a package, it takes force to start the tool for it again. -/
  repeated : ∀ package bytes, (decoding.load machine path).value.1 = .ok package →
    machine.disk.readBytes path = .ok bytes →
    ∀ (next : Decoding) (later : Machine) (other : String), next.folder = decoding.folder →
      Package.fileName other = Package.fileName path →
      Untouched decoding.folder (decoding.load machine path).value.2.disk later.disk →
      later.disk.readBytes other = .ok bytes → (Skips next later other ↔ next.force = false)
  /-- A tool that is missing or fails leaves no marker, and the next load starts it again. -/
  failed : Starts decoding machine path →
    (∀ decoder, machine.decoder = some decoder → decoder.succeeds = false) →
    (decoding.load machine path).value.2.disk.isFile (markerOf (decoding.folderOf path)) = false ∧
      ∀ (next : Decoding) (later : Machine) (other : String), next.folder = decoding.folder →
        Package.fileName other = Package.fileName path →
        Untouched decoding.folder (decoding.load machine path).value.2.disk later.disk →
        (∃ known, inspect later.disk other = .ok known) → Starts next later other

section Main

variable {supply : Supply} {dist : String} {decoding : Decoding} {machine : Machine} {path : String}

lemma reused_eq_forced (h : supply.Reached dist machine.disk)
    (ha : supply.Admits dist decoding machine path) (hskip : Skips decoding machine path)
    {bytes : ByteArray} {decoder : Decoder} (hb : machine.disk.readBytes path = .ok bytes)
    (hsucc : decoder.succeeds = true) (hfiles : decoder.files = supply.output bytes)
    (hfits : machine.disk.fits (Fingerprint.ofBytes bytes).sha256.toUTF8 = true) :
    (decoding.load machine path).value.1 =
      ({ decoding with force := true }.load { machine with decoder := some decoder }
        path).value.1 := by
  obtain ⟨⟨⟨codeUnits, digest⟩, hi⟩, _⟩ := id hskip
  obtain ⟨_, hb', rfl⟩ := inspect_ok hi
  obtain rfl := Except.ok.inj (hb.symm.trans hb')
  have hfolder : decoding.folderOf path = Path.join dist (Package.fileName path) := by
    rw [folderOf, ha.folder]
  have hr := reuses_of_skips hi hskip
  obtain ⟨_, hd⟩ := Bool.and_eq_true_iff.mp hr
  rw [hfolder] at hd
  obtain ⟨top, hk⟩ := h.kept
  obtain ⟨entries, inner, hs, hl, hsound, hlookup, hdec⟩ :=
    Supply.isDecoding_of_isDecoded ha.stem hk (ha.package bytes hb) hd
  obtain ⟨hclear, hnone, _⟩ := hsound.clear hs ha.stem hl
  have hs' := hs.of_follows
    (clear_sameOutside machine.disk (Path.join dist (Package.fileName path))).2
  have hfits' := (fits_clear machine.disk (Path.join dist (Package.fileName path)) _).trans hfits
  obtain ⟨after, hm, hafter⟩ :=
    Supply.mark_unpack hs' ha.stem hclear hnone (ha.package bytes hb) hdec hfits'
  have hread := readDecoded_congr ha.stem hl hlookup hafter (Node.lookup_setEntry_self _ _ _)
    codeUnits
  rw [← hfiles, ← hfolder] at hm
  rw [← hfolder] at hread
  -- the forced load clears the folder, and the tool fills it with the same files
  have hforced : ({ decoding with force := true }.load
      { machine with decoder := some decoder } path).value.1 = _ :=
    load_marked hi rfl rfl hsucc hm
  rw [load_reused hi hr, hforced, hread]
  rfl

lemma unmarked_of_failed (h : supply.Reached dist machine.disk)
    (ha : supply.Admits dist decoding machine path) (hstart : Starts decoding machine path)
    (hfail : ∀ decoder, machine.decoder = some decoder → decoder.succeeds = false) :
    (decoding.load machine path).value.2.disk.isFile (markerOf (decoding.folderOf path)) =
      false := by
  obtain ⟨codeUnits, digest, hi, hr⟩ := inspect_of_starts hstart
  obtain ⟨top, hk⟩ := h.kept
  obtain ⟨bytes, outcome, _, _, he, hdisk, hleaves⟩ := Supply.leaves_load hk ha hi hr
  rw [hdisk, folderOf, ha.folder]
  rcases hleaves with ⟨rfl, habsent⟩ | ⟨entries, _, hn, value, hv, _, hafter⟩
  · exact Supply.isFile_marker_absent habsent ha.stem
  · rw [he, leaves_of_failed _ _ _ hfail] at hv
    exact Supply.unmarked_leftover ha.stem hafter hn hv hfail

lemma isDecoded_of_load_ok {package : Package} {bytes : ByteArray}
    (h : supply.Reached dist machine.disk) (ha : supply.Admits dist decoding machine path)
    (hload : (decoding.load machine path).value.1 = .ok package)
    (hb : machine.disk.readBytes path = .ok bytes) :
    ∃ codeUnits, inspect machine.disk path =
        .ok (codeUnits, (Fingerprint.ofBytes bytes).sha256) ∧
      isDecoded (decoding.load machine path).value.2.disk (decoding.folderOf path)
        (Fingerprint.ofBytes bytes).sha256 = true := by
  obtain ⟨top, hk⟩ := h.kept
  cases hi : inspect machine.disk path with
  | error failure =>
    unfold load at hload
    rw [hi] at hload
    cases hload
  | ok known =>
    obtain ⟨codeUnits, digest⟩ := known
    obtain ⟨_, hb', rfl⟩ := inspect_ok hi
    obtain rfl := Except.ok.inj (hb.symm.trans hb')
    refine ⟨codeUnits, rfl, ?_⟩
    cases hr : decoding.reuses machine.disk path (Fingerprint.ofBytes bytes).sha256 with
    | true =>
      rw [load_reused hi hr]
      exact (Bool.and_eq_true_iff.mp hr).2
    | false =>
      obtain ⟨_, outcome, hbytes, _, he, hdisk, hleaves⟩ := Supply.leaves_load hk ha hi hr
      obtain rfl := Except.ok.inj (hb.symm.trans hbytes)
      have hmarked : outcome.2 = true := he ▸ leaves_of_load_ok hi hr hload
      rw [hdisk, folderOf, ha.folder]
      rcases hleaves with ⟨rfl, _⟩ | ⟨entries, _, _, value, hv, _, hafter⟩
      · cases hmarked
      · rw [hmarked] at hv
        cases hv with
        | whole hdec =>
          exact hdec.isDecoded (ha.package bytes hb) ha.stem hafter
            (Node.lookup_setEntry_self _ _ _)

theorem load_reliable (h : supply.Reached dist machine.disk)
    (ha : supply.Admits dist decoding machine path) : Reliable supply decoding machine path where
  reused hskip bytes decoder hb hsucc hfiles hfits :=
    reused_eq_forced h ha hskip hb hsucc hfiles hfits
  forced hforce hskip := by
    obtain ⟨⟨known, hi⟩, _⟩ := id hskip
    have hr := reuses_of_skips hi hskip
    simp [reuses, hforce] at hr
  started := by
    rintro ⟨known, hi⟩ hskip
    cases hr : decoding.reuses machine.disk path known.2 with
    | false => exact starts_of_not_reuses hi hr
    | true => exact (hskip (skips_of_reuses hi hr)).elim
  repeated package bytes hload hb next later other hfolder hstem hu hother := by
    obtain ⟨codeUnits, hi, hd⟩ := isDecoded_of_load_ok h ha hload hb
    have hi' := inspect_congr hb hother hi
    have hsame : next.folderOf other = decoding.folderOf path := by
      rw [folderOf, folderOf, hfolder, hstem]
    have hd' := Supply.isDecoded_untouched ha.stem hd hu
    have hr : next.reuses later.disk other (Fingerprint.ofBytes bytes).sha256 = !next.force := by
      rw [reuses, hsame, folderOf, hd', Bool.and_true]
    constructor
    · intro hskip
      simpa [hr] using reuses_of_skips hi' hskip
    · intro hforce
      exact skips_of_reuses hi' (by rw [hr, hforce]; rfl)
  failed hstart hfail := by
    have hmarker := unmarked_of_failed h ha hstart hfail
    refine ⟨hmarker, fun next later other hfolder hstem hu => ?_⟩
    rintro ⟨known, hi⟩
    refine starts_of_not_reuses hi ?_
    have hsame : next.folderOf other = decoding.folderOf path := by
      rw [folderOf, folderOf, hfolder, hstem]
    have hlater := Supply.unmarked_untouched ha.stem hmarker hu
    cases hd : isDecoded later.disk (next.folderOf other) known.2 with
    | false => simp [reuses, hd]
    | true =>
      have hf := isFile_of_isDecoded hd
      rw [hsame] at hf
      exact absurd (hf.symm.trans hlater) (by simp)

end Main

def bareArchive : ByteArray :=
  ⟨#[80, 75, 5, 6, 0, 0, 0, 0, 0, 0, 0, 0, 0, 0, 0, 0, 0, 0, 0, 0, 0, 0]⟩

def bareSupply : Supply where
  packages bytes := bytes = bareArchive
  output _ := [("smali", none), ("AndroidManifest.xml", some ⟨#[60, 109, 47, 62]⟩)]
  apart ha hb _ := ha.trans hb.symm
  below _ := by unfold StaysBelow; decide

def bareMachine : Machine where
  disk := { root := .folder true [("work", .folder true [("a.apk", .file bareArchive)])] }
  decoder := some { files := bareSupply.output bareArchive }

def bareAgain : Machine where
  disk := (load {} bareMachine "a.apk").value.2.disk

lemma readBytes_bareAgain : bareAgain.disk.readBytes "a.apk" = .ok bareArchive := by
  decide +kernel

lemma admits_bare : bareSupply.Admits "dist" {} bareMachine "a.apk" := by
  have hbytes : bareMachine.disk.readBytes "a.apk" = .ok bareArchive := by decide +kernel
  refine ⟨rfl, by decide, fun bytes hb => ?_, fun bytes hb decoder hd => ?_⟩
  · exact Except.ok.inj (hb.symm.trans hbytes)
  · obtain rfl := Option.some.inj hd
    exact ⟨bareSupply.below rfl, fun _ => rfl⟩

lemma reached_bareAgain : bareSupply.Reached "dist" bareAgain.disk := by
  have hvacant : Vacant "dist" bareMachine.disk := ⟨_, rfl, rfl⟩
  simpa only [bareAgain] using Supply.Reached.load (.start hvacant) admits_bare

theorem load_reliable_bare :
    Skips {} bareAgain "a.apk" ∧ Reliable bareSupply {} bareAgain "a.apk" := by
  refine ⟨?_, load_reliable reached_bareAgain
    ⟨rfl, by decide, fun bytes hb => ?_, fun _ _ _ hd => ?_⟩⟩
  · have hok : (inspect bareAgain.disk "a.apk").isOk = true := by decide +kernel
    have hr : reuses {} bareAgain.disk "a.apk" (Fingerprint.ofBytes bareArchive).sha256 = true := by
      decide +kernel
    obtain ⟨⟨codeUnits, digest⟩, hi⟩ : ∃ known, inspect bareAgain.disk "a.apk" = .ok known := by
      cases hi : inspect bareAgain.disk "a.apk" with
      | error failure => simp [hi, Except.isOk, Except.toBool] at hok
      | ok known => exact ⟨known, rfl⟩
    obtain ⟨bytes, hb, rfl⟩ := inspect_ok hi
    rw [readBytes_bareAgain] at hb
    obtain rfl := Except.ok.inj hb
    exact skips_of_reuses hi hr
  · exact Except.ok.inj (hb.symm.trans readBytes_bareAgain)
  · cases hd

end Decoding

end ApkAudit
