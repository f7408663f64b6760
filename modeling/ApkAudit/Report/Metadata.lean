import ApkAudit.Json.Printer

/-!
Metadata of a report: values by key in ascending order, each shown to readers or kept to the report.
-/

namespace ApkAudit

structure MetadataEntry where
  value : Json
  printable : Bool

/-- Entries in ascending order of their keys, one for each key. -/
structure Metadata where
  entries : List (String × MetadataEntry) := []
  ordered : entries.Pairwise fun a b => a.1 < b.1 := by exact .nil

namespace Metadata

def insert (key : String) (f : Option MetadataEntry → MetadataEntry) :
    List (String × MetadataEntry) → List (String × MetadataEntry)
  | [] => [(key, f none)]
  | (k, e) :: rest =>
    if key < k then (key, f none) :: (k, e) :: rest
    else if key = k then (key, f (some e)) :: rest
    else (k, e) :: insert key f rest

section Insert

variable {key : String} {f : Option MetadataEntry → MetadataEntry}
  {entries : List (String × MetadataEntry)}

theorem mem_insert {entry : String × MetadataEntry} (h : entry ∈ insert key f entries) :
    entry.1 = key ∨ entry ∈ entries := by
  induction entries with
  | nil =>
    have he := List.mem_singleton.mp h
    exact .inl (congrArg Prod.fst he)
  | cons first rest ih =>
    simp only [insert] at h
    split at h
    · rcases List.mem_cons.mp h with rfl | h
      · exact .inl rfl
      · exact .inr h
    · split at h
      · rcases List.mem_cons.mp h with rfl | h
        · exact .inl rfl
        · exact .inr (List.mem_cons_of_mem first h)
      · rcases List.mem_cons.mp h with rfl | h
        · exact .inr List.mem_cons_self
        · exact (ih h).imp_right (List.mem_cons_of_mem first)

theorem ordered_insert (h : entries.Pairwise fun a b => a.1 < b.1) :
    (insert key f entries).Pairwise fun a b => a.1 < b.1 := by
  induction entries with
  | nil => exact List.pairwise_singleton _ _
  | cons first rest ih =>
    have ⟨hfirst, hrest⟩ := List.pairwise_cons.mp h
    simp only [insert]
    split
    · next hlt =>
      refine List.pairwise_cons.mpr ⟨fun entry he => ?_, h⟩
      rcases List.mem_cons.mp he with rfl | he
      · exact hlt
      · exact String.lt_trans hlt (hfirst entry he)
    · next hle =>
      split
      · next heq =>
        subst heq
        exact List.pairwise_cons.mpr ⟨hfirst, hrest⟩
      · next hne =>
        have hlt : first.1 < key := Std.lt_of_le_of_ne (String.not_lt.mp hle) (Ne.symm hne)
        refine List.pairwise_cons.mpr ⟨fun entry he => ?_, ih hrest⟩
        rcases mem_insert he with hk | he
        · rwa [hk]
        · exact hfirst entry he

end Insert

/-- Sets a value.  A key that was hidden once stays hidden. -/
def set (m : Metadata) (key : String) (value : Json) (hidden : Bool) : Metadata where
  entries := insert key
    (fun old => ⟨value, (old.map MetadataEntry.printable).getD true && !hidden⟩) m.entries
  ordered := ordered_insert m.ordered

def get? (m : Metadata) (key : String) : Option Json :=
  (m.entries.lookup key).map MetadataEntry.value

def textOr (m : Metadata) (key otherwise : String) : String :=
  match m.get? key with
  | some .null | none => otherwise
  | some value => value.plain

def printable (m : Metadata) : List (String × Json) :=
  (m.entries.filter fun e => e.2.printable).map fun e => (e.1, e.2.value)

def json (m : Metadata) : Json :=
  .object (m.entries.map fun e => (e.1, e.2.value))

end Metadata

end ApkAudit
