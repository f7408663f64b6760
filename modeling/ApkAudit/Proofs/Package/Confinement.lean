import ApkAudit.Package.Loader
import ApkAudit.Proofs.Disk.Frame
import ApkAudit.Report.File

/-! What loading a package file can change on the disk.  The folder for its content is named after
its stem: as long as that is an ordinary name, nothing outside of this folder changes. -/

namespace ApkAudit

open Disk (SameOutside Follows Inside)

def Decoder.StaysInside (decoder : Decoder) (disk : Disk) (folder : String) : Prop :=
  ∀ item ∈ decoder.files, ∀ place, disk.placeOf (Path.join folder item.1) = some place →
    Inside (disk.placeOf folder) place

namespace Package

lemma fileName_ordinary_iff (path : String) :
    Path.IsOrdinary (fileName path) ↔ ¬ Path.StemOfDots path := by
  constructor
  · intro ho hd
    rcases Path.stem?_of_dots hd with hs | hs
    · exact ho.2.2.1 (by rw [fileName, hs]; rfl)
    · exact ho.2.2.2 (by rw [fileName, hs]; rfl)
  · intro hd
    unfold fileName
    cases hs : Path.stem? path with
    | none => exact by decide
    | some stem => exact Path.ordinary_of_stem? hs hd

end Package

namespace Decoding

lemma marker_ordinary : Path.IsOrdinary ".apk-vectors-decoded" := by decide

lemma clear_sameOutside (disk : Disk) (folder : String) :
    SameOutside (disk.placeOf folder) disk (clear disk folder).value ∧
      Follows disk (clear disk folder).value := by
  have hr := Disk.removeFolder_sameOutside disk folder
  have hf := Disk.follows_removeFolder disk folder
  unfold clear
  split
  · simp only [Logged.value_bind]
    split <;> simp_all
  · exact ⟨.refl _ _, .refl _⟩

lemma mark_snd (disk : Disk) (folder digest : String) :
    (mark disk folder digest).2 = (disk.write (markerOf folder) digest.toUTF8).1 := by
  unfold mark
  split <;> simp_all

lemma inside_of_follows {before after : Disk} {folder : String} (h : Follows before after)
    (place : List String) (hp : after.placeOf folder = some place) :
    Inside (before.placeOf folder) place :=
  ⟨place, h.placeOf hp, List.prefix_rfl⟩

lemma mark_sameOutside {before disk : Disk} (hf : Follows before disk) (folder digest : String) :
    SameOutside (before.placeOf folder) disk (mark disk folder digest).2 := by
  rw [mark_snd]
  refine (Disk.write_sameOutside disk (markerOf folder) digest.toUTF8).mono fun place hp => ?_
  rw [markerOf, Disk.placeOf_join disk folder marker_ordinary, Option.map_eq_some_iff] at hp
  obtain ⟨top, ht, rfl⟩ := hp
  exact ⟨top, hf.placeOf ht, List.prefix_append top _⟩

lemma working_unpack (disk : Disk) (folder : String) (files : List (String × Option ByteArray)) :
    (Machine.unpack disk folder files).working = disk.working := by
  unfold Machine.unpack
  split
  · rfl
  · rw [Disk.working_putAll, Disk.working_put]

lemma unpack_sameOutside {before disk : Disk} {decoder : Decoder} {folder : String}
    (hf : Follows before disk) (h : decoder.StaysInside before folder) :
    SameOutside (before.placeOf folder) disk (Machine.unpack disk folder decoder.files) := by
  unfold Machine.unpack
  split
  · exact .refl _ _
  · have hput := (Disk.put_sameOutside disk folder none).mono (inside_of_follows hf)
    refine hput.trans (Disk.putAll_sameOutside _ _ fun item hi place hp => ?_)
    obtain ⟨entry, he, rfl⟩ := List.mem_map.mp hi
    have hwork := Disk.follows_of_eq (Disk.working_put disk folder none)
    exact h entry he place (hf.placeOf (hwork.placeOf hp))

variable (decoding : Decoding) (machine : Machine) (path folder digest : String)

lemma decode_sameOutside {before : Disk} (hf : Follows before machine.disk)
    (h : ∀ decoder, machine.decoder = some decoder → decoder.StaysInside before folder) :
    SameOutside (before.placeOf folder) machine.disk
      (decoding.decode machine path folder digest).value.2.disk := by
  unfold decode
  simp only [Logged.value_bind, Machine.decode]
  cases hd : machine.decoder with
  | none => exact .refl _ _
  | some decoder =>
    have hu := unpack_sameOutside hf (h decoder hd)
    have hwork := Disk.follows_of_eq (working_unpack machine.disk folder decoder.files)
    have hm := mark_sameOutside (hf.trans hwork) folder digest
    dsimp only
    split
    · split
      · next he =>
        rw [he] at hm
        exact hu.trans hm
      · next he =>
        rw [he] at hm
        exact hu.trans hm
    · exact hu

lemma prepare_sameOutside
    (h : ∀ decoder, machine.decoder = some decoder → decoder.StaysInside machine.disk folder) :
    SameOutside (machine.disk.placeOf folder) machine.disk
      (decoding.prepare machine path folder digest).value.2.disk := by
  unfold prepare
  split
  · exact .refl _ _
  · obtain ⟨hclear, hf⟩ := clear_sameOutside machine.disk folder
    exact hclear.trans (decode_sameOutside decoding
      { machine with disk := (clear machine.disk folder).value } path folder digest hf h)

lemma load_sameOutside (h : ∀ decoder, machine.decoder = some decoder →
      decoder.StaysInside machine.disk (decoding.folderOf path)) :
    SameOutside (machine.disk.placeOf (decoding.folderOf path)) machine.disk
      (decoding.load machine path).value.2.disk := by
  unfold load
  split
  · exact .refl _ _
  · next codeUnits digest _ =>
    have hp := prepare_sameOutside decoding machine path (decoding.folderOf path) digest h
    simp only [Logged.value_bind]
    split <;> simp_all

end Decoding

/-- What is stored about a package file keeps to one folder: its name is an ordinary component, so
that the folders for its content and for its report are children of those in the settings, and
loading it touches no file but those below that child. -/
structure Confined (path : String) : Prop where
  ordinary : Path.IsOrdinary (Package.fileName path)
  decoded : ∀ decoding : Decoding, Path.components (decoding.folderOf path) =
    Path.components decoding.folder ++ [.name (Package.fileName path)]
  reported : ∀ results, Path.components (Report.folder results (Package.fileName path)) =
    Path.components results ++ [.name (Package.fileName path)]
  kept : ∀ (decoding : Decoding) (machine : Machine),
    (∀ decoder, machine.decoder = some decoder →
      decoder.StaysInside machine.disk (decoding.folderOf path)) →
    SameOutside ((machine.disk.placeOf decoding.folder).map (· ++ [Package.fileName path]))
      machine.disk (decoding.load machine path).value.2.disk

theorem confined_iff_stem (path : String) : Confined path ↔ ¬ Path.StemOfDots path := by
  rw [← Package.fileName_ordinary_iff]
  constructor
  · exact Confined.ordinary
  · intro h
    refine ⟨h, fun decoding => Path.components_join decoding.folder h,
      fun results => Path.components_join results h, fun decoding machine hd => ?_⟩
    rw [← Disk.placeOf_join machine.disk decoding.folder h]
    exact Decoding.load_sameOutside decoding machine path hd

def dottedDisk : Disk where
  root := .folder true [("work", .folder true [
    ("..apk", .file ⟨#[80, 75, 5, 6, 0, 0, 0, 0, 0, 0, 0, 0, 0, 0, 0, 0, 0, 0, 0, 0, 0, 0]⟩),
    ("dist", .folder true [("other", .folder true [("keep", .file ⟨#[120]⟩)])])])]

theorem dotted_load_clears_others :
    ¬ Confined "..apk" ∧
      (dottedDisk.root.file? ["work", "dist", "other", "keep"]).isSome = true ∧
      ((Decoding.load {} { disk := dottedDisk } "..apk").value.2.disk.root.file?
        ["work", "dist", "other", "keep"]).isSome = false := by
  refine ⟨fun h => h.ordinary.2.2.1 ?_, ?_, ?_⟩
  · decide +kernel
  · decide +kernel
  · decide +kernel

end ApkAudit
