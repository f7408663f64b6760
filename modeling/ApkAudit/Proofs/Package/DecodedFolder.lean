import ApkAudit.Proofs.Disk.Removal
import ApkAudit.Proofs.Package.Confinement
import ApkAudit.Proofs.Package.Loading

/-! What the steps of a load do to the folder for decoded packages, and what is read from it.  Only
the subfolder that is named after the package matters, as if it were a disk of its own. -/

namespace ApkAudit

open Disk (LeadsTo Straight LeadsDown ofEntries steps placeOf)
open Node (setEntry)

abbrev Decoding.marker : String := ".apk-vectors-decoded"

/-- Files that are written below the folder of the tool, and none of them the marker. -/
def StaysBelow (files : List (String × Option ByteArray)) : Prop :=
  ∀ item ∈ files, LeadsDown item.1 ∧ (item.2.isSome = true → steps item.1 ≠ [Decoding.marker])

section Digests

lemma Text.decodeUtf8?_toUTF8 (s : String) : Text.decodeUtf8? s.toUTF8 = some s := by
  unfold Text.decodeUtf8? String.fromUTF8?
  split
  · rfl
  · next h => exact absurd s.isValidUTF8 (by simpa using h)

lemma Text.toUTF8_of_textOf {content : ByteArray} {text : String}
    (h : Disk.textOf content = .ok text) : text.toUTF8 = content := by
  unfold Disk.textOf Text.decodeUtf8? String.fromUTF8? at h
  split at h
  · next found hf =>
    split at hf
    · rw [← Except.ok.inj h, ← Option.some.inj hf]
      rfl
    · cases hf
  · cases h

lemma Digest.trim_hex (bytes : List UInt8) : Text.trim (Digest.hex bytes) = Digest.hex bytes := by
  have hdigit : ∀ n < 16, Text.isBlank (Nat.digitChar n) = false := by decide
  have hs : Text.IsSolid (Digest.hex bytes).toList := by
    intro c hc
    simp only [Digest.hex, String.toList_ofList, List.mem_flatMap] at hc
    obtain ⟨b, _, hb⟩ := hc
    have hlt := b.toNat_lt
    rcases List.mem_cons.mp hb with rfl | hb
    · exact hdigit _ (by omega)
    · rw [List.mem_singleton.mp hb]
      exact hdigit _ (by omega)
  rw [Text.trim, hs.trim, String.ofList_toList]

lemma Text.utf8ByteSize_cons (c : Char) (cs : List Char) :
    (String.ofList (c :: cs)).utf8ByteSize = c.utf8Size + (String.ofList cs).utf8ByteSize := by
  rw [String.ofList_cons, String.utf8ByteSize_append, String.utf8ByteSize_singleton]

lemma Text.utf8ByteSize_le_of_sublist {part whole : List Char} (h : part.Sublist whole) :
    (String.ofList part).utf8ByteSize ≤ (String.ofList whole).utf8ByteSize := by
  induction h with
  | slnil => exact Nat.le_refl _
  | cons c _ ih => exact ih.trans (Text.utf8ByteSize_cons c _ ▸ Nat.le_add_left _ _)
  | cons_cons c _ ih =>
    rw [Text.utf8ByteSize_cons, Text.utf8ByteSize_cons]
    exact Nat.add_le_add_left ih _

lemma Text.utf8ByteSize_trim_le (s : String) : (Text.trim s).utf8ByteSize ≤ s.utf8ByteSize := by
  have hstart : (Text.trimStartChars s.toList).Sublist s.toList := List.dropWhile_sublist _
  have hend : (Text.trimChars s.toList).Sublist (Text.trimStartChars s.toList) := by
    have h := (List.dropWhile_sublist Text.isBlank
      (l := (Text.trimStartChars s.toList).reverse)).reverse
    rwa [List.reverse_reverse] at h
  have hle := Text.utf8ByteSize_le_of_sublist (hend.trans hstart)
  rwa [String.ofList_toList] at hle

lemma Digest.utf8ByteSize_hex (bytes : List UInt8) :
    (Digest.hex bytes).utf8ByteSize = 2 * bytes.length := by
  have hdigit : ∀ n < 16, (Nat.digitChar n).utf8Size = 1 := by decide
  induction bytes with
  | nil => rfl
  | cons b bytes ih =>
    have hlt := b.toNat_lt
    unfold Digest.hex at ih ⊢
    rw [List.flatMap_cons, List.cons_append, List.cons_append, List.nil_append,
      Text.utf8ByteSize_cons, Text.utf8ByteSize_cons, ih, hdigit (b.toNat / 16) (by omega),
      hdigit (b.toNat % 16) (by omega), List.length_cons]
    omega

lemma Fingerprint.size_sha256 (bytes : ByteArray) :
    (Fingerprint.ofBytes bytes).sha256.toUTF8.size = 64 :=
  Digest.utf8ByteSize_hex (Digest.Sha256.digest bytes)

end Digests

namespace Decoding

variable {disk disk' : Disk} {dist stem : String} {top top' : List String}
  {entries entries' inner : List (String × Node)} {writable writable' : Bool} {folder : Node}

section Reading

lemma readDecoded_congr (ho : Path.IsOrdinary stem)
    (h : LeadsTo disk dist top (.folder writable entries))
    (hl : entries.lookup stem = some (.folder true inner))
    (h' : LeadsTo disk' dist top' (.folder writable' entries'))
    (hl' : entries'.lookup stem = some (.folder true inner)) (codeUnits : Nat) :
    Package.readDecoded disk (Path.join dist stem) codeUnits =
      Package.readDecoded disk' (Path.join dist stem) codeUnits := by
  have hfolder : disk.get (Path.join dist stem) = disk'.get (Path.join dist stem) := by
    rw [h.get_child ho, h'.get_child ho, hl, hl']
  have hfile : ∀ {name}, Path.IsOrdinary name →
      disk.get (Path.join (Path.join dist stem) name) =
        disk'.get (Path.join (Path.join dist stem) name) := by
    intro name hn
    rw [(h.child ho hl).get_child hn, (h'.child ho hl').get_child hn]
  have hmanifest : Package.readManifest disk (Path.join dist stem) =
      Package.readManifest disk' (Path.join dist stem) := by
    have hn : Path.IsOrdinary "AndroidManifest.xml" := by decide
    unfold Package.readManifest
    dsimp only
    rw [hfile hn]
  have hvalues : Package.readBuildValues disk (Path.join dist stem) =
      Package.readBuildValues disk' (Path.join dist stem) := by
    have hn : Path.IsOrdinary "apktool.yml" := by decide
    unfold Package.readBuildValues Disk.readText Disk.readBytes
    rw [hfile hn]
  have hcode : Package.readCode disk (Path.join dist stem) =
      Package.readCode disk' (Path.join dist stem) := by
    unfold Package.readCode
    rw [hfolder]
  unfold Package.readDecoded
  rw [hmanifest, hvalues, hcode]

lemma leadsTo_of_get_marker {node : Node} (ho : Path.IsOrdinary stem)
    (h : disk.get (markerOf (Path.join dist stem)) = .ok node) :
    ∃ top around entries writable inner, LeadsTo disk dist top (.folder around entries) ∧
      entries.lookup stem = some (.folder writable inner) ∧ inner.lookup marker = some node := by
  obtain ⟨place, writable, inner, hp, hn⟩ := Disk.leadsTo_of_get_join marker_ordinary h
  obtain ⟨top, around, entries, ht, hl⟩ := hp.parent ho
  exact ⟨top, around, entries, writable, inner, ht, hl, hn⟩

lemma isFile_of_isDecoded {folder digest : String} (h : isDecoded disk folder digest = true) :
    disk.isFile (markerOf folder) = true := by
  unfold isDecoded at h
  split at h
  · next text ht =>
    obtain ⟨content, hc, _⟩ := Outcome.of_bind_ok ht
    unfold Disk.isFile
    rw [Disk.get_of_readBytes hc]
    rfl
  · cases h

lemma isDecoded_eq {digest : String} (ho : Path.IsOrdinary stem)
    (h : LeadsTo disk dist top (.folder writable entries))
    (hl : entries.lookup stem = some (.folder true inner)) {written : List UInt8}
    (hm : inner.lookup marker = some (.file (Digest.hex written).toUTF8)) :
    isDecoded disk (Path.join dist stem) digest = (Digest.hex written == digest) := by
  have hg : disk.get (markerOf (Path.join dist stem)) =
      .ok (.file (Digest.hex written).toUTF8) := by
    rw [markerOf, (h.child ho hl).get_child marker_ordinary, hm]
  have ht : disk.readText (markerOf (Path.join dist stem)) = .ok (Digest.hex written) := by
    unfold Disk.readText Disk.readBytes
    rw [hg]
    show Disk.textOf (Digest.hex written).toUTF8 = _
    unfold Disk.textOf
    rw [Text.decodeUtf8?_toUTF8]
  unfold isDecoded
  rw [ht]
  dsimp only
  rw [Digest.trim_hex]

lemma isDecoded_of_short (ho : Path.IsOrdinary stem)
    (h : LeadsTo disk dist top (.folder writable entries))
    (hl : entries.lookup stem = some (.folder true inner)) {content : ByteArray}
    (hm : inner.lookup marker = some (.file content)) (hc : content.size < 64) (bytes : ByteArray) :
    isDecoded disk (Path.join dist stem) (Fingerprint.ofBytes bytes).sha256 = false := by
  have hg : disk.get (markerOf (Path.join dist stem)) = .ok (.file content) := by
    rw [markerOf, (h.child ho hl).get_child marker_ordinary, hm]
  unfold isDecoded
  split
  · next text ht =>
    have htext : Disk.textOf content = .ok text := by
      unfold Disk.readText Disk.readBytes at ht
      rwa [hg] at ht
    have hsize : text.utf8ByteSize = content.size := by
      rw [← Text.toUTF8_of_textOf htext]
      rfl
    refine beq_false_of_ne fun he => ?_
    have hle := Text.utf8ByteSize_trim_le text
    have hfull : (Fingerprint.ofBytes bytes).sha256.utf8ByteSize = 64 :=
      Fingerprint.size_sha256 bytes
    rw [he, hfull, hsize] at hle
    omega
  · rfl

end Reading

section Writing

lemma fits_clear (disk : Disk) (folder : String) (content : ByteArray) :
    (clear disk folder).value.fits content = disk.fits content := by
  have hr : (disk.removeFolder folder).1.fits content = disk.fits content := by
    unfold Disk.removeFolder
    split
    · rfl
    · split
      · dsimp only
        repeat' split
        all_goals rfl
      · rfl
      · rfl
  unfold clear
  split
  · simp only [Logged.value_bind]
    split <;> simp_all
  · rfl

variable (hs : Straight disk dist top) (ho : Path.IsOrdinary stem)

include hs ho

lemma clear_leadsTo (h : LeadsTo disk dist top (.folder true entries))
    (hfolder : ∀ node, entries.lookup stem = some node →
      node.Removable ∧ ∃ inner, node = .folder true inner) :
    LeadsTo (clear disk (Path.join dist stem)).value dist top
      (.folder true (setEntry stem none entries)) := by
  unfold clear Disk.has
  rw [h.get_child ho]
  cases hl : entries.lookup stem with
  | none =>
    rw [Node.setEntry_none_of_lookup hl]
    exact h
  | some node =>
    obtain ⟨hr, inner, rfl⟩ := hfolder node hl
    have hset := h.shrunk hs stem
    simpa [Except.isOk, Except.toBool, Disk.removeFolder_child h ho hl hr] using hset

lemma unpack_eq (h : LeadsTo disk dist top (.folder true entries))
    (hl : entries.lookup stem = none) {files : List (String × Option ByteArray)} (hne : files ≠ [])
    (hb : StaysBelow files) :
    Machine.unpack disk (Path.join dist stem) files =
      disk.graft (top ++ [stem]) ((ofEntries []).putAll files).root := by
  have hput := Disk.put_child h ho hl
  have hall := Disk.putAll_below (h.graft hs stem .empty) (hs.of_follows (.refl _)) ho
    (Node.lookup_setEntry_self stem _ _) files fun item hi => (hb item hi).1
  unfold Machine.unpack
  rw [if_neg (by simpa using hne), hput]
  exact hall.trans (Disk.graft_graft disk _ _ _)

end Writing

section Marking

lemma steps_marker : steps marker = [marker] :=
  Disk.steps_step ⟨marker_ordinary.1, marker_ordinary.2.1, marker_ordinary.2.2.1⟩

lemma leadsTo_of_target_marker {folder : String} {place : List String}
    (h : disk.target (markerOf folder) = .ok place) :
    ∃ top writable inner, LeadsTo disk folder top (.folder writable inner) := by
  obtain ⟨origin, top, last, hs, _, _, hw, ⟨writable, inner, hf, _⟩, _⟩ := Disk.target_ok h
  rw [markerOf, Disk.start_join disk folder marker_ordinary] at hs
  rw [markerOf, Disk.steps_join folder marker_ordinary, List.dropLast_concat] at hw
  exact ⟨top, writable, inner, ⟨origin, hs, hw⟩, hf⟩

lemma target_marker_of_lookup (ho : Path.IsOrdinary stem)
    (h : LeadsTo disk dist top (.folder writable entries)) (hl : entries.lookup stem = none) :
    ∃ e, disk.target (markerOf (Path.join dist stem)) = .error e := by
  cases ht : disk.target (markerOf (Path.join dist stem)) with
  | error e => exact ⟨e, rfl⟩
  | ok place =>
    obtain ⟨_, _, _, hf⟩ := leadsTo_of_target_marker ht
    obtain ⟨_, _, _, hd, hn⟩ := hf.parent ho
    obtain ⟨_, he⟩ := h.unique hd
    rw [(Node.folder.inj he).2, hn] at hl
    cases hl

def marked (content : ByteArray) (inner : List (String × Node)) : List (String × Node) :=
  setEntry marker (some (.file content)) inner

lemma lookup_marked (content : ByteArray) (inner : List (String × Node)) :
    (marked content inner).lookup marker = some (.file content) :=
  Node.lookup_setEntry_self marker _ inner

lemma target_marker_ofEntries {place : List String}
    (h : (ofEntries inner).target marker = .ok place) : place = [marker] := by
  obtain ⟨_, found, last, hstart, hlast, _, hw, _, rfl⟩ := Disk.target_ok h
  rw [steps_marker] at hlast hw
  obtain rfl : marker = last := Option.some.inj hlast
  obtain rfl : [] = found := (Option.some.inj hstart).trans (Except.ok.inj hw)
  rfl

lemma mark_below (ho : Path.IsOrdinary stem) (h : LeadsTo disk dist top (.folder writable entries))
    (hl : entries.lookup stem = some (.folder true inner)) (digest : String) :
    ((ofEntries inner).write marker digest.toUTF8 = (ofEntries (marked digest.toUTF8 inner), none) ∧
        (mark disk (Path.join dist stem) digest).1.isOk = disk.fits digest.toUTF8 ∧
        (mark disk (Path.join dist stem) digest).2 = disk.graft (top ++ [stem])
          (.folder true (marked (disk.taken digest.toUTF8) inner))) ∨
      (((ofEntries inner).write marker digest.toUTF8).2.isSome = true ∧
        (mark disk (Path.join dist stem) digest).1.isOk = false ∧
        (mark disk (Path.join dist stem) digest).2 = disk) := by
  have ht := Disk.target_below (h.child ho hl) (Disk.leadsDown_of_ordinary marker_ordinary)
  cases hown : (ofEntries inner).target marker with
  | error e =>
    rw [hown] at ht
    refine .inr ⟨?_, mark_of_target_error ht digest⟩
    rw [Disk.write, hown]
    rfl
  | ok place =>
    obtain rfl := target_marker_ofEntries hown
    rw [hown] at ht
    have hset : disk.graft (top ++ [stem] ++ [marker]) (.file (disk.taken digest.toUTF8)) =
        disk.graft (top ++ [stem]) (.folder true (marked (disk.taken digest.toUTF8) inner)) :=
      congrArg (fun root => { disk with root := root })
        (Node.set_append (List.cons_ne_nil marker []) (h.child ho hl).stands _)
    have hwrite : disk.write (markerOf (Path.join dist stem)) digest.toUTF8 =
        (disk.graft (top ++ [stem]) (.folder true (marked (disk.taken digest.toUTF8) inner)),
          if disk.fits digest.toUTF8 then none else some .full) := by
      rw [Disk.write, markerOf, ht]
      exact congrArg (·, if disk.fits digest.toUTF8 then none else some DiskError.full) hset
    refine .inl ⟨?_, ?_⟩
    · rw [Disk.write, hown]
      rfl
    · unfold mark
      rw [hwrite]
      cases disk.fits digest.toUTF8 <;> exact ⟨rfl, rfl⟩

lemma removable_marked (h : (Node.folder true inner).Removable) (content : ByteArray) :
    (Node.folder true (marked content inner)).Removable :=
  h.setEntry fun _ hn => Option.some.inj hn ▸ .file content

lemma removable_unpacked (files : List (String × Option ByteArray)) :
    ((ofEntries []).putAll files).root.Removable :=
  Disk.removable_putAll (.folder (by simp)) files

lemma file?_marker_put (disk : Disk) (hw : disk.working = some [])
    {item : String × Option ByteArray} (hd : LeadsDown item.1)
    (hm : item.2.isSome = true → steps item.1 ≠ [marker]) :
    (disk.put item.1 item.2).root.file? [marker] = disk.root.file? [marker] := by
  obtain ⟨path, content⟩ := item
  cases content with
  | none =>
    refine Disk.makeFolders_sameOutside disk path none [marker] ?_
    rintro ⟨top, ht, _⟩
    cases ht
  | some bytes =>
    refine Disk.put_sameOutside disk path (some bytes) [marker] ?_
    rintro ⟨top, ht, hp⟩
    have hplace : disk.placeOf path = some (steps path) := by
      simp [Disk.placeOf, Disk.start, hd.relative, hw, Disk.descend_plain [] hd.plain]
    obtain rfl : steps path = top := Option.some.inj (hplace.symm.trans ht)
    rcases List.prefix_cons_iff.mp hp with hnil | ⟨rest, hcons, hrest⟩
    · exact hd.steps_ne_nil hnil
    · rw [List.prefix_nil.mp hrest] at hcons
      exact hm rfl hcons

lemma file?_marker_putAll {files : List (String × Option ByteArray)} (h : StaysBelow files) :
    ((ofEntries []).putAll files).root.file? [marker] = none := by
  have hall : ∀ disk : Disk, disk.working = some [] →
      (disk.putAll files).root.file? [marker] = disk.root.file? [marker] := by
    induction files with
    | nil => exact fun _ _ => rfl
    | cons item files ih =>
      intro disk hw
      obtain ⟨hd, hm⟩ := h item List.mem_cons_self
      exact (ih (fun other ho => h other (List.mem_cons_of_mem _ ho)) _
        ((Disk.working_put disk item.1 item.2).trans hw)).trans (file?_marker_put disk hw hd hm)
  exact hall (ofEntries []) rfl

end Marking

end Decoding

end ApkAudit
