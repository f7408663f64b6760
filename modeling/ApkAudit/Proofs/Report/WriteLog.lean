import ApkAudit.Proofs.Report.Metadata
import Mathlib.Data.String.Basic
import Mathlib.Logic.Function.Basic

/-! Metadata as the effect of a log of writes: the last value counts, and a key stays hidden from
the first hidden write on.  What a writer holds enters the log when the writer is merged. -/

namespace ApkAudit

namespace Metadata

section Entries

variable {entries : List (String × MetadataEntry)} {key : String}

lemma lookup_of_lt (h : ∀ entry ∈ entries, key < entry.1) : entries.lookup key = none := by
  apply List.lookup_eq_none_iff.mpr
  intro entry he
  simpa using (h entry he).ne

lemma lookup_insert (h : entries.Pairwise fun a b => a.1 < b.1) (key : String)
    (f : Option MetadataEntry → MetadataEntry) :
    (Metadata.insert key f entries).lookup key = some (f (entries.lookup key)) := by
  induction entries with
  | nil => simp [Metadata.insert]
  | cons first rest ih =>
    obtain ⟨k, old⟩ := first
    obtain ⟨hfirst, hrest⟩ := List.pairwise_cons.mp h
    simp only [Metadata.insert]
    split
    · next hlt =>
      have hnone : ((k, old) :: rest).lookup key = none := by
        apply lookup_of_lt
        intro entry he
        rcases List.mem_cons.mp he with rfl | he
        · exact hlt
        · exact hlt.trans (hfirst entry he)
      rw [hnone, List.lookup_cons_self]
    · split
      · next heq =>
        subst heq
        rw [List.lookup_cons_self, List.lookup_cons_self]
      · next hne =>
        have hb : (key == k) = false := by simpa using hne
        simpa [List.lookup_cons, hb] using ih hrest

lemma mem_iff_lookup (h : entries.Pairwise fun a b => a.1 < b.1) {e : MetadataEntry} :
    (key, e) ∈ entries ↔ entries.lookup key = some e := by
  induction entries with
  | nil => simp
  | cons first rest ih =>
    obtain ⟨k, old⟩ := first
    obtain ⟨hfirst, hrest⟩ := List.pairwise_cons.mp h
    by_cases hk : key = k
    · subst hk
      have hnot : (key, e) ∉ rest := fun hm => lt_irrefl key (hfirst (key, e) hm)
      simp [hnot, eq_comm]
    · have hb : (key == k) = false := by simpa using hk
      simp [List.lookup_cons, hb, hk, ih hrest]

end Entries

/-- What a log leaves under a key: the last value, hidden if one of the writes is. -/
def entryOf? (log : List MetadataWrite) (key : String) : Option MetadataEntry :=
  let writes := log.filter (·.key = key)
  writes.getLast?.map fun last => ⟨last.value, writes.all (!·.hidden)⟩

lemma entryOf?_concat_self (log : List MetadataWrite) (w : MetadataWrite) :
    entryOf? (log ++ [w]) w.key =
      some ⟨w.value,
        ((entryOf? log w.key).map MetadataEntry.printable).getD true && !w.hidden⟩ := by
  have hf : (log ++ [w]).filter (·.key = w.key) = log.filter (·.key = w.key) ++ [w] := by simp
  simp only [entryOf?, hf, List.getLast?_concat, List.all_append]
  rcases List.eq_nil_or_concat (log.filter (·.key = w.key)) with hn | ⟨before, last, hl⟩
  · simp [hn]
  · simp [hl]

lemma entryOf?_concat_ne (log : List MetadataWrite) {w : MetadataWrite} {key : String}
    (h : key ≠ w.key) : entryOf? (log ++ [w]) key = entryOf? log key := by
  simp [entryOf?, List.filter_append, Ne.symm h]

def writeAll (m : Metadata) (log : List MetadataWrite) : Metadata :=
  log.foldl (fun m w => m.set w.key w.value w.hidden) m

lemma writeAll_append (m : Metadata) (log more : List MetadataWrite) :
    m.writeAll (log ++ more) = (m.writeAll log).writeAll more :=
  List.foldl_append

def Reflects (log : List MetadataWrite) (m : Metadata) : Prop :=
  ∀ key, m.entries.lookup key = entryOf? log key

namespace Reflects

variable {log : List MetadataWrite} {m : Metadata}

lemma empty : Reflects [] {} :=
  fun _ => rfl

lemma set (h : m.Reflects log) (w : MetadataWrite) :
    (m.set w.key w.value w.hidden).Reflects (log ++ [w]) := by
  intro key
  by_cases hk : key = w.key
  · subst hk
    rw [entryOf?_concat_self, ← h]
    exact lookup_insert m.ordered _ _
  · rw [entryOf?_concat_ne log hk, ← h]
    exact lookup_insert_ne hk _ _

lemma writeAll (h : m.Reflects log) (more : List MetadataWrite) :
    (m.writeAll more).Reflects (log ++ more) := by
  induction more generalizing log m with
  | nil => simpa [Metadata.writeAll] using h
  | cons w more ih =>
    have hr := ih (h.set w)
    rwa [List.append_assoc] at hr

end Reflects

/-- What a log of writes says about metadata: it has the keys that are written, each with its last
value, and readers see those that are never written as hidden. -/
structure Records (log : List MetadataWrite) (m : Metadata) : Prop where
  has_iff : ∀ key, (m.get? key).isSome = true ↔ ∃ w ∈ log, w.key = key
  last : ∀ key, m.get? key = (log.filter (·.key = key)).getLast?.map MetadataWrite.value
  shown_iff : ∀ key value, (key, value) ∈ m.printable ↔
    m.get? key = some value ∧ ∀ w ∈ log, w.key = key → w.hidden = false

lemma mem_printable {m : Metadata} {key : String} {value : Json} :
    (key, value) ∈ m.printable ↔ m.entries.lookup key = some ⟨value, true⟩ := by
  rw [← mem_iff_lookup m.ordered, printable]
  constructor
  · intro hm
    obtain ⟨⟨k, v, shown⟩, he, hp⟩ := List.mem_map.mp hm
    obtain ⟨rfl, rfl⟩ := Prod.mk.inj hp
    obtain ⟨he, rfl⟩ := List.mem_filter.mp he
    exact he
  · intro hm
    exact List.mem_map.mpr ⟨_, List.mem_filter.mpr ⟨hm, rfl⟩, rfl⟩

def Hides (m : Metadata) (key : String) : Prop :=
  (m.get? key).isSome = true ∧ ∀ value, (key, value) ∉ m.printable

lemma hides_iff {m : Metadata} {key : String} :
    m.Hides key ↔ ∃ value, m.entries.lookup key = some ⟨value, false⟩ := by
  simp only [Hides, mem_printable, get?, Option.isSome_map]
  cases m.entries.lookup key with
  | none => simp
  | some e =>
    obtain ⟨value, shown⟩ := e
    cases shown <;> simp

lemma Hides.set {m : Metadata} {key : String} (hk : m.Hides key) (w : MetadataWrite) :
    (m.set w.key w.value w.hidden).Hides key := by
  obtain ⟨value, hl⟩ := hides_iff.mp hk
  apply hides_iff.mpr
  by_cases he : key = w.key
  · subst he
    refine ⟨w.value, (lookup_insert m.ordered _ _).trans ?_⟩
    rw [hl]
    rfl
  · exact ⟨value, (lookup_insert_ne he _ _).trans hl⟩

section WriteAll

variable {log : List MetadataWrite} {m : Metadata} {key : String}

lemma Hides.writeAll (hk : m.Hides key) (log : List MetadataWrite) :
    (m.writeAll log).Hides key := by
  induction log generalizing m with
  | nil => exact hk
  | cons w log ih => exact ih (hk.set w)

lemma lookup_writeAll_of_not_mem (h : key ∉ log.map MetadataWrite.key) (m : Metadata) :
    (m.writeAll log).entries.lookup key = m.entries.lookup key := by
  induction log generalizing m with
  | nil => rfl
  | cons w log ih =>
    obtain ⟨hw, hl⟩ := List.ne_and_not_mem_of_not_mem_cons h
    exact (ih hl _).trans (lookup_insert_ne hw _ _)

lemma get?_writeAll_of_not_mem (h : key ∉ log.map MetadataWrite.key) (m : Metadata) :
    (m.writeAll log).get? key = m.get? key := by
  rw [get?, lookup_writeAll_of_not_mem h, get?]

lemma get?_writeAll_of_mem {w : MetadataWrite} (hw : w ∈ log)
    (hn : (log.map MetadataWrite.key).Nodup) (m : Metadata) :
    (m.writeAll log).get? w.key = some w.value := by
  obtain ⟨front, back, rfl⟩ := List.append_of_mem hw
  rw [List.map_append, List.map_cons] at hn
  have hnot := (List.nodup_cons.mp (List.nodup_append.mp hn).2.1).1
  rw [writeAll_append]
  exact (get?_writeAll_of_not_mem hnot _).trans (get?_set_self _ _ _ _)

end WriteAll

lemma Reflects.records {log : List MetadataWrite} {m : Metadata} (h : m.Reflects log) :
    m.Records log := by
  have hlast : ∀ key, m.get? key =
      (log.filter (·.key = key)).getLast?.map MetadataWrite.value := by
    intro key
    rw [get?, h, entryOf?, Option.map_map]
    rfl
  refine ⟨fun key => ?_, hlast, fun key value => ?_⟩
  · rw [hlast]
    simp
  · rw [mem_printable, h, hlast, entryOf?]
    cases (log.filter (·.key = key)).getLast? with
    | none => simp
    | some last =>
      simp [List.all_filter, imp_iff_not_or]

namespace Records

variable {before between last : List MetadataWrite} {m : Metadata} {w : MetadataWrite}

lemma hidden_around (h : m.Records (before ++ between ++ last)) (hw : w ∈ before ++ last)
    (hh : w.hidden = true) :
    (m.get? w.key).isSome = true ∧ ∀ value, (w.key, value) ∉ m.printable := by
  have hlog : w ∈ before ++ between ++ last := by
    rcases List.mem_append.mp hw with hw | hw
    · exact List.mem_append_left _ (List.mem_append_left _ hw)
    · exact List.mem_append_right _ hw
  refine ⟨(h.has_iff w.key).mpr ⟨w, hlog, rfl⟩, ?_⟩
  intro value hm
  have hshown := ((h.shown_iff w.key value).mp hm).2 w hlog rfl
  rw [hh] at hshown
  cases hshown

lemma get?_of_mem_last (h : m.Records (before ++ last)) (hn : (last.map MetadataWrite.key).Nodup)
    (hw : w ∈ last) : m.get? w.key = some w.value := by
  obtain ⟨first, rest, rfl⟩ := List.append_of_mem hw
  have hrest : rest.filter (·.key = w.key) = [] := by
    apply List.filter_eq_nil_iff.mpr
    intro v hv
    rw [List.map_append, List.map_cons] at hn
    have hnot := (List.nodup_cons.mp (List.nodup_append.mp hn).2.1).1
    have hne : v.key ≠ w.key := fun he => hnot (he ▸ List.mem_map_of_mem hv)
    simpa using hne
  rw [h.last, List.filter_append, List.filter_append, List.filter_cons_of_pos (by simp), hrest]
  simp

end Records

end Metadata

namespace Report

def record (r : Report) (log : List MetadataWrite) : Report :=
  { r with metadata := r.metadata.writeAll log }

lemma metadata_record (r : Report) (log : List MetadataWrite) :
    (r.record log).metadata = r.metadata.writeAll log := rfl

@[simp] lemma record_nil (r : Report) : r.record [] = r := rfl

@[simp] lemma record_cons (r : Report) (w : MetadataWrite) (log : List MetadataWrite) :
    r.record (w :: log) = (r.setMetadata w.key w.value w.hidden).record log := rfl

lemma record_append (r : Report) (log more : List MetadataWrite) :
    r.record (log ++ more) = (r.record log).record more :=
  congrArg (fun m => { r with metadata := m }) (Metadata.writeAll_append r.metadata log more)

/-- Some entries have been written, and nothing else is different.  What readers were not to see
they do not see now. -/
structure WritesWithin (keys : List String) (before after : Report) : Prop where
  status : after.status = before.status
  findings : after.findings = before.findings
  completed : after.completed = before.completed
  entries : ∀ key ∉ keys,
    after.metadata.entries.lookup key = before.metadata.entries.lookup key
  hidden : ∀ key, before.metadata.Hides key → after.metadata.Hides key

lemma writesWithin_record {keys : List String} {log : List MetadataWrite}
    (h : (log.map MetadataWrite.key).Sublist keys) (r : Report) :
    WritesWithin keys r (r.record log) where
  status := rfl
  findings := rfl
  completed := rfl
  entries _ hk := Metadata.lookup_writeAll_of_not_mem (fun hm => hk (h.subset hm)) r.metadata
  hidden _ hk := hk.writeAll log

end Report

inductive ReportEvent where
  | record (write : MetadataWrite)
  | call (writer : Nat) (call : WriterCall)
  | merge (writer : Nat)

/-- A report and writers by number; a number stands for a new writer after it has been merged. -/
structure Session where
  report : Report := .empty
  writers : Nat → Writer := fun _ => .empty

namespace Session

def step (s : Session) : ReportEvent → Session
  | .record w => { s with report := s.report.setMetadata w.key w.value w.hidden }
  | .call i c => { s with writers := Function.update s.writers i ((s.writers i).apply c).value }
  | .merge i => ⟨s.report.merge (s.writers i), Function.update s.writers i .empty⟩

def run (s : Session) (events : List ReportEvent) : Session :=
  events.foldl step s

/-- The writes that count, in their order: those on the report at once, and those on a writer, which
wait for it to be merged. -/
def effective (waiting : Nat → List MetadataWrite) : List ReportEvent → List MetadataWrite
  | [] => []
  | .record w :: rest => w :: effective waiting rest
  | .call i c :: rest =>
    effective (Function.update waiting i (waiting i ++ (Writer.written? c).toList)) rest
  | .merge i :: rest => waiting i ++ effective (Function.update waiting i []) rest

end Session

lemma Report.metadata_merge (r : Report) (w : Writer) :
    (r.merge w).metadata = r.metadata.writeAll w.metadata := by
  have h : ∀ (log : List MetadataWrite) (r : Report),
      (log.foldl (fun r m => r.setMetadata m.key m.value m.hidden) r).metadata =
        r.metadata.writeAll log := by
    intro log
    induction log with
    | nil => exact fun r => rfl
    | cons m log ih => exact fun r => ih (r.setMetadata m.key m.value m.hidden)
  exact h w.metadata _

namespace Session

lemma metadata_update (writers : Nat → Writer) (i : Nat) (w : Writer) :
    (fun j => (Function.update writers i w j).metadata) =
      Function.update (fun j => (writers j).metadata) i w.metadata := by
  funext j
  by_cases hj : j = i
  · subst hj
    simp
  · simp [hj]

lemma reflects_run {log : List MetadataWrite} {s : Session} (h : s.report.metadata.Reflects log)
    (events : List ReportEvent) :
    (s.run events).report.metadata.Reflects
      (log ++ effective (fun i => (s.writers i).metadata) events) := by
  induction events generalizing log s with
  | nil => simpa [run, effective] using h
  | cons event events ih =>
    cases event with
    | record w =>
      have hr := ih (s := s.step (.record w)) (h.set w)
      rwa [List.append_assoc] at hr
    | call i c =>
      have hr := ih (s := s.step (.call i c)) h
      rw [step, metadata_update, Writer.metadata_apply] at hr
      exact hr
    | merge i =>
      have hm : (s.step (.merge i)).report.metadata.Reflects (log ++ (s.writers i).metadata) := by
        rw [step, Report.metadata_merge]
        exact h.writeAll _
      have hr := ih hm
      rw [step, metadata_update, List.append_assoc] at hr
      exact hr

end Session

end ApkAudit
