import ApkAudit.Package.Loader
import Mathlib.Tactic.Common

/-! The two ways a load can take once the package file is known: it uses the decoded folder as it
stands, or clears it and starts the tool. -/

namespace ApkAudit

lemma Disk.get_of_readBytes {disk : Disk} {path : String} {content : ByteArray}
    (h : disk.readBytes path = .ok content) : disk.get path = .ok (.file content) := by
  obtain ⟨node, hn, hf⟩ := Outcome.of_bind_ok h
  cases node with
  | file bytes => rw [hn, Except.ok.inj hf]
  | locked size => cases hf
  | folder writable entries => cases hf

namespace Decoding

variable (decoding : Decoding) (machine : Machine) (path folder digest : String)

def leaves (decoder : Option Decoder) (disk : Disk) (folder digest : String) : Disk × Bool :=
  match decoder with
  | none => (disk, false)
  | some decoder =>
    if decoder.succeeds then
      let marked := mark (Machine.unpack disk folder decoder.files) folder digest
      (marked.2, marked.1.isOk)
    else (Machine.unpack disk folder decoder.files, false)

lemma mark_of_target_error {disk : Disk} {folder : String} {e : DiskError}
    (h : disk.target (markerOf folder) = .error e) (digest : String) :
    (mark disk folder digest).1.isOk = false ∧ (mark disk folder digest).2 = disk := by
  have hw : disk.write (markerOf folder) digest.toUTF8 = (disk, some e) := by
    rw [Disk.write, h]
  unfold mark
  rw [hw]
  exact ⟨rfl, rfl⟩

lemma leaves_of_no_files {run : Decoder} {disk : Disk} {folder : String} {e : DiskError}
    (hf : run.files = []) (hm : disk.target (markerOf folder) = .error e) (digest : String) :
    leaves (some run) disk folder digest = (disk, false) := by
  have hu : Machine.unpack disk folder run.files = disk := by simp [Machine.unpack, hf]
  obtain ⟨hfail, hdisk⟩ := mark_of_target_error hm digest
  unfold leaves
  dsimp only
  rw [hu, hfail, hdisk, ite_self]

lemma leaves_of_failed {decoder : Option Decoder} (disk : Disk) (folder digest : String)
    (hfail : ∀ run, decoder = some run → run.succeeds = false) :
    (leaves decoder disk folder digest).2 = false := by
  cases decoder with
  | none => rfl
  | some run =>
    unfold leaves
    dsimp only
    rw [if_neg (by simp [hfail run rfl])]

lemma decode_leaves :
    (decoding.decode machine path folder digest).value.2.disk =
        (leaves machine.decoder machine.disk folder digest).1 ∧
      ((decoding.decode machine path folder digest).value.1 = .ok () →
        (leaves machine.decoder machine.disk folder digest).2 = true) := by
  unfold decode leaves
  simp only [Logged.value_bind, Machine.decode]
  cases machine.decoder with
  | none => exact ⟨rfl, fun h => by cases h⟩
  | some decoder =>
    dsimp only
    split
    · cases mark (Machine.unpack machine.disk folder decoder.files) folder digest with
      | mk outcome after =>
        cases outcome with
        | error failure => exact ⟨rfl, fun h => by cases h⟩
        | ok done => exact ⟨rfl, fun _ => rfl⟩
    · exact ⟨rfl, fun h => by cases h⟩

lemma commands_decode {decoder : Decoder} (hd : machine.decoder = some decoder) :
    (decoding.decode machine path folder digest).value.2.commands =
      machine.commands ++ [Machine.decodeCommand decoding.tool folder path] := by
  unfold decode
  simp only [Logged.value_bind, Machine.decode, hd]
  split
  · split <;> rfl
  · rfl

lemma decode_marked {decoder : Decoder} {marked : Disk} (hd : machine.decoder = some decoder)
    (hs : decoder.succeeds = true)
    (hm : mark (Machine.unpack machine.disk folder decoder.files) folder digest =
      (.ok (), marked)) :
    (decoding.decode machine path folder digest).value =
      (.ok (), { (machine.decode decoding.tool folder path).2 with disk := marked }) := by
  unfold decode
  simp only [Logged.value_bind, Machine.decode, hd]
  rw [if_pos hs, hm]
  rfl

def reuses (decoding : Decoding) (disk : Disk) (path digest : String) : Bool :=
  !decoding.force && isDecoded disk (decoding.folderOf path) digest

variable {decoding machine path digest} {codeUnits : Nat}

lemma load_reused (hi : inspect machine.disk path = .ok (codeUnits, digest))
    (hr : decoding.reuses machine.disk path digest = true) :
    (decoding.load machine path).value =
      ((Package.readDecoded machine.disk (decoding.folderOf path) codeUnits).value, machine) := by
  have hp : decoding.prepare machine path (decoding.folderOf path) digest = _ := if_pos hr
  unfold load
  rw [hi]
  simp only [Logged.value_bind, hp]
  rfl

lemma load_decoded (hi : inspect machine.disk path = .ok (codeUnits, digest))
    (hr : decoding.reuses machine.disk path digest = false) :
    (decoding.load machine path).value =
      let outcome := (decoding.decode
        { machine with disk := (clear machine.disk (decoding.folderOf path)).value } path
        (decoding.folderOf path) digest).value
      match outcome.1 with
      | .error failure => (.error failure, outcome.2)
      | .ok () =>
        ((Package.readDecoded outcome.2.disk (decoding.folderOf path) codeUnits).value,
          outcome.2) := by
  have hp : decoding.prepare machine path (decoding.folderOf path) digest = _ :=
    if_neg (ne_true_of_eq_false hr)
  unfold load
  rw [hi]
  simp only [Logged.value_bind, hp]
  split <;> simp_all

lemma leaves_of_load_ok {package : Package}
    (hi : inspect machine.disk path = .ok (codeUnits, digest))
    (hr : decoding.reuses machine.disk path digest = false)
    (hload : (decoding.load machine path).value.1 = .ok package) :
    (leaves machine.decoder (clear machine.disk (decoding.folderOf path)).value
      (decoding.folderOf path) digest).2 = true := by
  refine (decode_leaves decoding
    { machine with disk := (clear machine.disk (decoding.folderOf path)).value } path
    (decoding.folderOf path) digest).2 ?_
  rw [load_decoded hi hr] at hload
  dsimp only at hload
  split at hload
  · cases hload
  · next hok => exact hok

lemma machine_load_decoded (hi : inspect machine.disk path = .ok (codeUnits, digest))
    (hr : decoding.reuses machine.disk path digest = false) :
    (decoding.load machine path).value.2 = (decoding.decode
      { machine with disk := (clear machine.disk (decoding.folderOf path)).value } path
      (decoding.folderOf path) digest).value.2 := by
  rw [load_decoded hi hr]
  dsimp only
  split <;> rfl

lemma load_marked {decoder : Decoder} {marked : Disk}
    (hi : inspect machine.disk path = .ok (codeUnits, digest))
    (hr : decoding.reuses machine.disk path digest = false) (hd : machine.decoder = some decoder)
    (hs : decoder.succeeds = true)
    (hm : mark (Machine.unpack (clear machine.disk (decoding.folderOf path)).value
      (decoding.folderOf path) decoder.files) (decoding.folderOf path) digest =
        (.ok (), marked)) :
    (decoding.load machine path).value.1 =
      (Package.readDecoded marked (decoding.folderOf path) codeUnits).value := by
  have hdecode := decode_marked decoding
    { machine with disk := (clear machine.disk (decoding.folderOf path)).value } path
    (decoding.folderOf path) digest hd hs hm
  rw [load_decoded hi hr, hdecode]

/-- A load skips the tool: it gets as far as that, and no tool whatsoever would be given a
command. -/
def Skips (decoding : Decoding) (machine : Machine) (path : String) : Prop :=
  (∃ known, inspect machine.disk path = .ok known) ∧
    ∀ decoder, (decoding.load { machine with decoder := some decoder } path).value.2.commands =
      machine.commands

/-- A load starts the tool: any tool would be given the command to decode the package. -/
def Starts (decoding : Decoding) (machine : Machine) (path : String) : Prop :=
  ∀ decoder, (decoding.load { machine with decoder := some decoder } path).value.2.commands =
    machine.commands ++ [Machine.decodeCommand decoding.tool (decoding.folderOf path) path]

lemma skips_of_reuses (hi : inspect machine.disk path = .ok (codeUnits, digest))
    (hr : decoding.reuses machine.disk path digest = true) : Skips decoding machine path := by
  refine ⟨⟨_, hi⟩, fun decoder => ?_⟩
  have hl : (decoding.load { machine with decoder := some decoder } path).value = _ :=
    load_reused hi hr
  rw [hl]

lemma starts_of_not_reuses (hi : inspect machine.disk path = .ok (codeUnits, digest))
    (hr : decoding.reuses machine.disk path digest = false) : Starts decoding machine path := by
  intro decoder
  have hm : (decoding.load { machine with decoder := some decoder } path).value.2 = _ :=
    machine_load_decoded hi hr
  rw [hm]
  exact commands_decode decoding _ path _ digest rfl

lemma not_starts_of_skips (h : Skips decoding machine path) : ¬ Starts decoding machine path :=
  fun hs => absurd ((hs {}).symm.trans (h.2 {})) (by simp)

lemma reuses_of_skips (hi : inspect machine.disk path = .ok (codeUnits, digest))
    (h : Skips decoding machine path) : decoding.reuses machine.disk path digest = true := by
  cases hr : decoding.reuses machine.disk path digest with
  | true => rfl
  | false => exact (not_starts_of_skips h (starts_of_not_reuses hi hr)).elim

lemma inspect_of_starts (h : Starts decoding machine path) :
    ∃ codeUnits digest, inspect machine.disk path = .ok (codeUnits, digest) ∧
      decoding.reuses machine.disk path digest = false := by
  cases hi : inspect machine.disk path with
  | error failure =>
    have hl : (decoding.load { machine with decoder := some {} } path).value.2.commands =
        machine.commands := by
      unfold load
      rw [hi]
      rfl
    exact absurd ((h {}).symm.trans hl) (by simp)
  | ok known =>
    refine ⟨known.1, known.2, rfl, ?_⟩
    cases hr : decoding.reuses machine.disk path known.2 with
    | false => rfl
    | true => exact (not_starts_of_skips (skips_of_reuses hi hr) h).elim

lemma inspect_ok {disk : Disk} (hi : inspect disk path = .ok (codeUnits, digest)) :
    ∃ bytes, disk.readBytes path = .ok bytes ∧
      digest = (Fingerprint.ofBytes bytes).sha256 := by
  obtain ⟨_, _, hf⟩ := Outcome.of_bind_ok hi
  obtain ⟨fingerprint, hp, he⟩ := Outcome.of_bind_ok hf
  unfold Disk.fingerprint at hp
  split at hp
  · next bytes hb =>
    refine ⟨bytes, hb, ?_⟩
    rw [Except.ok.inj hp]
    exact (Prod.mk.inj (Except.ok.inj he)).2.symm
  · cases hp

lemma inspect_congr {disk disk' : Disk} {path' : String} {bytes : ByteArray} {known : Nat × String}
    (hb : disk.readBytes path = .ok bytes) (hb' : disk'.readBytes path' = .ok bytes)
    (hi : inspect disk path = .ok known) : inspect disk' path' = .ok known := by
  unfold inspect Package.countCodeUnits Disk.fingerprint at hi ⊢
  rw [Disk.get_of_readBytes hb, hb] at hi
  rw [Disk.get_of_readBytes hb', hb']
  dsimp only at hi ⊢
  cases hn : Archive.Zip.names bytes with
  | error problem =>
    rw [hn] at hi
    cases hi
  | ok names =>
    rw [hn] at hi
    exact hi

end Decoding

end ApkAudit
