import ApkAudit.Proofs.Report.Metadata

/-! Reports that differ in the values of some keys only.  The values of these keys are masked, and
every operation on reports is one on masked reports. -/

namespace ApkAudit

namespace Metadata

variable (keys : List String)

def maskEntry (entry : String × MetadataEntry) : String × MetadataEntry :=
  (entry.1, ⟨if entry.1 ∈ keys then .null else entry.2.value, entry.2.printable⟩)

def masked (m : Metadata) : Metadata where
  entries := m.entries.map (maskEntry keys)
  ordered := List.pairwise_map.mpr m.ordered

lemma masked_set (m : Metadata) (key : String) (value : Json) (hidden : Bool) :
    (m.set key value hidden).masked keys =
      (m.masked keys).set key (if key ∈ keys then .null else value) hidden := by
  obtain ⟨entries, ordered⟩ := m
  simp only [masked, set, mk.injEq]
  clear ordered
  induction entries with
  | nil => simp [insert, maskEntry]
  | cons entry rest ih =>
    obtain ⟨k, old⟩ := entry
    by_cases hlt : key < k
    · simp [insert, maskEntry, hlt]
    · by_cases heq : key = k
      · subst heq
        simp only [insert, maskEntry, hlt, if_true, if_false, List.map_cons]
        rfl
      · simp only [insert, maskEntry, hlt, heq, if_false, List.map_cons, ih]

lemma lookup_map_maskEntry (key : String) (entries : List (String × MetadataEntry)) :
    (entries.map (maskEntry keys)).lookup key =
      (entries.lookup key).map fun e => ⟨if key ∈ keys then .null else e.value, e.printable⟩ := by
  induction entries with
  | nil => rfl
  | cons entry rest ih =>
    rw [List.map_cons, List.lookup_cons, List.lookup_cons]
    by_cases hk : key = entry.1
    · simp [maskEntry, hk]
    · have hb : (key == entry.1) = false := by simpa using hk
      simp only [maskEntry, hb, ih]

lemma get?_masked {key : String} (hk : key ∉ keys) (m : Metadata) :
    (m.masked keys).get? key = m.get? key := by
  simp only [get?, masked, lookup_map_maskEntry, if_neg hk, Option.map_map]
  rfl

lemma keys_printable_masked (m : Metadata) :
    (m.masked keys).printable.map Prod.fst = m.printable.map Prod.fst := by
  simp only [printable, masked, List.filter_map, List.map_map]
  rfl

end Metadata

namespace Report

def masked (keys : List String) (r : Report) : Report :=
  { r with metadata := r.metadata.masked keys }

/-- Reports that are the same but for the values of some keys. -/
def Alike (keys : List String) (r r' : Report) : Prop :=
  r.masked keys = r'.masked keys

namespace Alike

variable {keys : List String} {r r' : Report}

lemma refl (keys : List String) (r : Report) : Alike keys r r := rfl

lemma masked_eq (h : Alike keys r r') : r.masked keys = r'.masked keys := h

lemma status (h : Alike keys r r') : r.status = r'.status := by
  have hs := congrArg Report.status h.masked_eq
  exact hs

lemma findings (h : Alike keys r r') : r.findings = r'.findings := by
  have hf := congrArg Report.findings h.masked_eq
  exact hf

lemma metadata (h : Alike keys r r') : r.metadata.masked keys = r'.metadata.masked keys :=
  congrArg Report.metadata h

lemma setStatus (h : Alike keys r r') (status : Status) :
    Alike keys (r.setStatus status) (r'.setStatus status) :=
  congrArg (Report.setStatus · status) h

lemma complete (h : Alike keys r r') : Alike keys r.complete r'.complete :=
  congrArg Report.complete h

lemma setMetadata (h : Alike keys r r') {key : String} {value value' : Json}
    (hv : key ∉ keys → value = value') (hidden : Bool) :
    Alike keys (r.setMetadata key value hidden) (r'.setMetadata key value' hidden) := by
  have hmask : ∀ (r : Report) (value : Json), (r.setMetadata key value hidden).masked keys =
      (r.masked keys).setMetadata key (if key ∈ keys then .null else value) hidden := by
    intro r value
    simp only [masked, Report.setMetadata, Metadata.masked_set]
  have hvalue : (if key ∈ keys then Json.null else value) =
      if key ∈ keys then Json.null else value' := by
    split
    · rfl
    · next hk => exact hv hk
  rw [Alike, hmask, hmask, hvalue, h.masked_eq]

lemma set (h : Alike keys r r') (key : String) (value : Json) (hidden : Bool) :
    Alike keys (r.setMetadata key value hidden) (r'.setMetadata key value hidden) :=
  h.setMetadata (fun _ => rfl) hidden

lemma merge (h : Alike keys r r') (w : Writer) : Alike keys (r.merge w) (r'.merge w) := by
  have hall : ∀ (writes : List MetadataWrite) {r r' : Report}, Alike keys r r' →
      Alike keys (writes.foldl (fun r m => r.setMetadata m.key m.value m.hidden) r)
        (writes.foldl (fun r m => r.setMetadata m.key m.value m.hidden) r') := by
    intro writes
    induction writes with
    | nil => exact fun h => h
    | cons m writes ih => exact fun h => ih (h.set m.key m.value m.hidden)
  apply hall
  exact congrArg (fun r : Report => { r with findings := r.findings ++ w.findings }) h

lemma get? (h : Alike keys r r') {key : String} (hk : key ∉ keys) :
    r.metadata.get? key = r'.metadata.get? key := by
  rw [← Metadata.get?_masked keys hk, h.metadata, Metadata.get?_masked keys hk]

lemma printable (h : Alike keys r r') :
    r.metadata.printable.map Prod.fst = r'.metadata.printable.map Prod.fst := by
  rw [← Metadata.keys_printable_masked keys, h.metadata, Metadata.keys_printable_masked]

end Alike

end Report

end ApkAudit
