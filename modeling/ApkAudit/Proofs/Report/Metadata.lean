import ApkAudit.Report.Basic
import Mathlib.Tactic.Common

/-! What the operations on a report do to its parts, and to the values of its metadata. -/

namespace ApkAudit

namespace Metadata

lemma lookup_insert_self (key : String) (f : Option MetadataEntry → MetadataEntry)
    (entries : List (String × MetadataEntry)) :
    ∃ old, (insert key f entries).lookup key = some (f old) := by
  induction entries with
  | nil => exact ⟨none, by simp [insert]⟩
  | cons entry rest ih =>
    obtain ⟨k, e⟩ := entry
    unfold insert
    split
    · exact ⟨none, by simp⟩
    · split
      · next hk => exact ⟨some e, by simp⟩
      · next hk =>
        obtain ⟨old, ho⟩ := ih
        have hb : (key == k) = false := by simpa using hk
        exact ⟨old, by simpa [List.lookup_cons, hb] using ho⟩

lemma lookup_insert_ne {key other : String} (h : other ≠ key)
    (f : Option MetadataEntry → MetadataEntry) (entries : List (String × MetadataEntry)) :
    (insert key f entries).lookup other = entries.lookup other := by
  have hb : (other == key) = false := by simpa using h
  induction entries with
  | nil => simp [insert, List.lookup_cons, hb]
  | cons entry rest ih =>
    obtain ⟨k, e⟩ := entry
    unfold insert
    split
    · simp [List.lookup_cons, hb]
    · split
      · next hk =>
        subst hk
        simp [List.lookup_cons, hb]
      · simp [List.lookup_cons, ih]

@[simp] lemma get?_set_self (m : Metadata) (key : String) (value : Json) (hidden : Bool) :
    (m.set key value hidden).get? key = some value := by
  obtain ⟨old, ho⟩ := lookup_insert_self key
    (fun old => ⟨value, (old.map MetadataEntry.printable).getD true && !hidden⟩) m.entries
  simp only [get?, set, ho, Option.map_some]

lemma get?_set_ne {key other : String} (h : other ≠ key) (m : Metadata) (value : Json)
    (hidden : Bool) : (m.set key value hidden).get? other = m.get? other := by
  simp only [get?, set, lookup_insert_ne h]

end Metadata

namespace Report

variable (r : Report) (key : String) (value : Json) (hidden : Bool) (status : Status)

@[simp] lemma metadata_empty : empty.metadata = {} := rfl

@[simp] lemma status_setMetadata : (r.setMetadata key value hidden).status = r.status := rfl

@[simp] lemma findings_setMetadata : (r.setMetadata key value hidden).findings = r.findings := rfl

@[simp] lemma completed_setMetadata :
    (r.setMetadata key value hidden).completed = r.completed := rfl

@[simp] lemma metadata_setMetadata :
    (r.setMetadata key value hidden).metadata = r.metadata.set key value hidden := rfl

@[simp] lemma status_setStatus : (r.setStatus status).status = status := rfl

@[simp] lemma findings_setStatus : (r.setStatus status).findings = r.findings := rfl

@[simp] lemma completed_setStatus : (r.setStatus status).completed = r.completed := rfl

@[simp] lemma metadata_setStatus : (r.setStatus status).metadata = r.metadata := rfl

@[simp] lemma status_complete : r.complete.status = r.status := rfl

@[simp] lemma findings_complete : r.complete.findings = r.findings := rfl

@[simp] lemma completed_complete : r.complete.completed = true := rfl

@[simp] lemma metadata_complete : r.complete.metadata = r.metadata := rfl

def sets : Bool :=
  (r.metadata.get? key).isSome

variable {r key value hidden status}

lemma sets_setMetadata {other : String} :
    (r.setMetadata key value hidden).sets other = true ↔ other = key ∨ r.sets other = true := by
  by_cases h : other = key
  · simp [sets, h]
  · simp [sets, h, Metadata.get?_set_ne h]

/-- The second report comes from the first one by setting keys of a list, and perhaps its status. -/
structure SameBut (keys : List String) (before after : Report) : Prop where
  findings : after.findings = before.findings
  completed : after.completed = before.completed
  metadata : ∀ key ∉ keys, after.metadata.get? key = before.metadata.get? key

namespace SameBut

variable {keys : List String} {before middle after : Report}

lemma refl (keys : List String) (r : Report) : SameBut keys r r :=
  ⟨rfl, rfl, fun _ _ => rfl⟩

lemma trans (h₁ : SameBut keys before middle) (h₂ : SameBut keys middle after) :
    SameBut keys before after :=
  ⟨h₂.findings.trans h₁.findings, h₂.completed.trans h₁.completed,
    fun key hk => (h₂.metadata key hk).trans (h₁.metadata key hk)⟩

lemma setMetadata (h : SameBut keys before after) (hk : key ∈ keys) (value : Json) (hidden : Bool) :
    SameBut keys before (after.setMetadata key value hidden) := by
  refine ⟨h.findings, h.completed, fun other ho => ?_⟩
  have hne : other ≠ key := fun he => ho (he ▸ hk)
  rw [metadata_setMetadata, Metadata.get?_set_ne hne, h.metadata other ho]

lemma setStatus (h : SameBut keys before after) (status : Status) :
    SameBut keys before (after.setStatus status) :=
  ⟨h.findings, h.completed, h.metadata⟩

lemma sets_eq (h : SameBut keys before after) (hk : key ∉ keys) :
    after.sets key = before.sets key := by
  rw [sets, sets, h.metadata key hk]

end SameBut

lemma setAll_parts (writes : List MetadataWrite) (r : Report) :
    (writes.foldl (fun r m => r.setMetadata m.key m.value m.hidden) r).status = r.status ∧
      (writes.foldl (fun r m => r.setMetadata m.key m.value m.hidden) r).findings = r.findings ∧
      (writes.foldl (fun r m => r.setMetadata m.key m.value m.hidden) r).completed =
        r.completed := by
  induction writes generalizing r with
  | nil => exact ⟨rfl, rfl, rfl⟩
  | cons m writes ih => exact ih (r.setMetadata m.key m.value m.hidden)

lemma sets_setAll (writes : List MetadataWrite) (r : Report) (key : String) :
    (writes.foldl (fun r m => r.setMetadata m.key m.value m.hidden) r).sets key = true ↔
      r.sets key = true ∨ ∃ m ∈ writes, m.key = key := by
  induction writes generalizing r with
  | nil => simp
  | cons m writes ih =>
    rw [List.foldl_cons, ih, sets_setMetadata]
    constructor
    · rintro ((rfl | h) | ⟨n, hn, hk⟩)
      · exact Or.inr ⟨m, List.mem_cons_self, rfl⟩
      · exact Or.inl h
      · exact Or.inr ⟨n, List.mem_cons_of_mem m hn, hk⟩
    · rintro (h | ⟨n, hn, hk⟩)
      · exact Or.inl (Or.inr h)
      · rcases List.mem_cons.mp hn with rfl | hn
        · exact Or.inl (Or.inl hk.symm)
        · exact Or.inr ⟨n, hn, hk⟩

@[simp] lemma status_merge (r : Report) (w : Writer) : (r.merge w).status = r.status :=
  (setAll_parts w.metadata _).1

@[simp] lemma findings_merge (r : Report) (w : Writer) :
    (r.merge w).findings = r.findings ++ w.findings :=
  (setAll_parts w.metadata _).2.1

@[simp] lemma completed_merge (r : Report) (w : Writer) : (r.merge w).completed = r.completed :=
  (setAll_parts w.metadata _).2.2

lemma sets_merge (r : Report) (w : Writer) (key : String) :
    (r.merge w).sets key = true ↔ r.sets key = true ∨ ∃ m ∈ w.metadata, m.key = key :=
  sets_setAll w.metadata _ key

end Report

namespace Writer

def written? : WriterCall → Option MetadataWrite
  | .setMetadata key value hidden => some ⟨key, value, hidden⟩
  | _ => none

lemma metadata_apply (w : Writer) (call : WriterCall) :
    (w.apply call).value.metadata = w.metadata ++ (written? call).toList := by
  cases call with
  | start tag level title description => simp [apply, start, written?]
  | detail line =>
    simp only [apply, detail]
    split <;> simp [written?]
  | close => simp [apply, close, written?]
  | setMetadata key value hidden => rfl

lemma metadata_run (w : Writer) (calls : List WriterCall) :
    (w.run calls).value.metadata = w.metadata ++ calls.filterMap written? := by
  induction calls generalizing w with
  | nil => simp [run]
  | cons call calls ih =>
    rw [run, Logged.value_bind, ih, metadata_apply, List.append_assoc, List.filterMap_cons]
    cases written? call <;> rfl

end Writer

end ApkAudit
