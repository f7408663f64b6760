import ApkAudit.Proofs.Report.WriteLog
import ApkAudit.Proofs.Report.Written
import Mathlib.Data.List.DropRight
import Mathlib.Data.List.Induction

/-! Findings as the effect of a log of calls.  Each start makes a finding, and the lines up to the
next start or close belong to it; all other lines are lost.  What is closed stays as it is, in the
writer and later in the report. -/

namespace ApkAudit

namespace WriterCall

def isBoundary : WriterCall → Bool
  | start _ _ _ _ => true
  | close => true
  | detail _ => false
  | setMetadata _ _ _ => false

def line? : WriterCall → Option String
  | detail line => some line
  | start _ _ _ _ => none
  | close => none
  | setMetadata _ _ _ => none

end WriterCall

namespace Writer

def ownLines (calls : List WriterCall) : List String :=
  (calls.takeWhile fun call => !call.isBoundary).filterMap WriterCall.line?

def grouped : List WriterCall → List Finding
  | [] => []
  | .start tag level title description :: rest =>
    ⟨tag, level, title, description, ownLines rest⟩ :: grouped rest
  | .detail _ :: rest => grouped rest
  | .close :: rest => grouped rest
  | .setMetadata _ _ _ :: rest => grouped rest

section Groups

lemma ownLines_of_boundary {call : WriterCall} (h : call.isBoundary = true)
    (calls : List WriterCall) : ownLines (call :: calls) = [] := by
  simp [ownLines, h]

lemma ownLines_cons {call : WriterCall} (h : call.isBoundary = false) (calls : List WriterCall) :
    ownLines (call :: calls) = call.line?.toList ++ ownLines calls := by
  cases hl : call.line? <;> simp [ownLines, h, hl]

lemma foldl_addDetail (lines : List String) (findings : List Finding) (f : Finding) :
    lines.foldl (fun findings line => addDetail line findings) (findings ++ [f]) =
      findings ++ [{ f with details := f.details ++ lines }] := by
  induction lines generalizing f with
  | nil => simp
  | cons line lines ih => simp [addDetail_concat, ih]

def extended (w : Writer) (lines : List String) : List Finding :=
  if w.isOpen then lines.foldl (fun findings line => addDetail line findings) w.findings
  else w.findings

lemma extended_nil (w : Writer) : w.extended [] = w.findings := by
  simp [extended]

lemma extended_detail (w : Writer) (line : String) (lines : List String) :
    (w.detail line).value.extended lines = w.extended (line :: lines) := by
  by_cases ho : w.isOpen = true
  · by_cases hf : w.findings = []
    · simp [detail, extended, ho, hf, addDetail]
    · simp [detail, extended, ho, hf]
  · simp [detail, extended, ho]

lemma findings_run (w : Writer) (calls : List WriterCall) :
    (w.run calls).value.findings = w.extended (ownLines calls) ++ grouped calls := by
  -- the lines up to the first boundary go to the finding that is open now
  induction calls generalizing w with
  | nil => simp [run, ownLines, grouped, extended_nil]
  | cons call calls ih =>
    rw [run, Logged.value_bind, ih]
    cases call with
    | start tag level title description =>
      rw [ownLines_of_boundary rfl, extended_nil, grouped]
      simp [apply, start, extended, foldl_addDetail]
    | detail line =>
      rw [ownLines_cons rfl, grouped, apply, extended_detail]
      rfl
    | close =>
      rw [ownLines_of_boundary rfl, extended_nil, grouped]
      simp [apply, close, extended]
    | setMetadata key value hidden =>
      rw [ownLines_cons rfl, grouped]
      rfl

lemma findings_run_empty (calls : List WriterCall) :
    (empty.run calls).value.findings = grouped calls := by
  rw [findings_run]
  rfl

end Groups

section Steps

lemma value_run_concat (w : Writer) (calls : List WriterCall) (call : WriterCall) :
    (w.run (calls ++ [call])).value = ((w.run calls).value.apply call).value :=
  value_run_append w calls [call]

def LastStarts (calls : List WriterCall) : Prop :=
  ∃ tag level title description, (calls.filter WriterCall.isBoundary).getLast? =
    some (.start tag level title description)

lemma isOpen_detail (w : Writer) (line : String) : (w.detail line).value.isOpen = w.isOpen := by
  unfold detail
  split <;> rfl

lemma isOpen_run_empty (calls : List WriterCall) :
    (empty.run calls).value.isOpen = true ↔ LastStarts calls := by
  induction calls using List.reverseRecOn with
  | nil => simp [run, empty, LastStarts]
  | append_singleton calls call ih =>
    rw [value_run_concat]
    cases call with
    | start tag level title description =>
      simp [apply, start, LastStarts, WriterCall.isBoundary, List.filter_append]
    | detail line =>
      rw [apply, isOpen_detail, ih]
      simp [LastStarts, WriterCall.isBoundary, List.filter_append]
    | close => simp [apply, close, LastStarts, WriterCall.isBoundary, List.filter_append]
    | setMetadata key value hidden =>
      have ho : ((empty.run calls).value.apply (.setMetadata key value hidden)).value.isOpen =
          (empty.run calls).value.isOpen := rfl
      rw [ho, ih]
      simp [LastStarts, WriterCall.isBoundary, List.filter_append]

def closedFindings (w : Writer) : List Finding :=
  if w.isOpen then w.findings.dropLast else w.findings

lemma closedFindings_prefix_findings (w : Writer) : w.closedFindings <+: w.findings := by
  unfold closedFindings
  split
  · exact List.dropLast_prefix _
  · exact List.prefix_rfl

lemma dropLast_addDetail (line : String) (findings : List Finding) :
    (addDetail line findings).dropLast = findings.dropLast := by
  rcases List.eq_nil_or_concat' findings with rfl | ⟨before, f, rfl⟩
  · rfl
  · rw [addDetail_concat, List.dropLast_concat, List.dropLast_concat]

lemma closedFindings_apply (w : Writer) (call : WriterCall) :
    w.closedFindings <+: (w.apply call).value.closedFindings := by
  cases call with
  | start tag level title description =>
    have hs : (w.apply (.start tag level title description)).value.closedFindings = w.findings := by
      simp [apply, start, closedFindings]
    rw [hs]
    exact w.closedFindings_prefix_findings
  | detail line =>
    have hd : (w.apply (.detail line)).value.closedFindings = w.closedFindings := by
      by_cases ho : w.isOpen = true
      · by_cases hf : w.findings = []
        · simp [apply, detail, closedFindings, ho, hf]
        · simp [apply, detail, closedFindings, ho, hf, dropLast_addDetail]
      · simp [apply, detail, closedFindings, ho]
    exact hd.symm ▸ List.prefix_rfl
  | close => exact w.closedFindings_prefix_findings
  | setMetadata key value hidden => exact List.prefix_rfl

lemma closedFindings_run (w : Writer) (calls : List WriterCall) :
    w.closedFindings <+: (w.run calls).value.closedFindings := by
  induction calls generalizing w with
  | nil => exact List.prefix_rfl
  | cons call calls ih => exact (w.closedFindings_apply call).trans (ih (w.apply call).value)

end Steps

section Lost

def lostWarning (line : String) : LogLine :=
  ⟨.warning, .reportWriter, s!"detail line written without an open finding: {line}"⟩

def lines (w : Writer) : List String :=
  w.findings.flatMap Finding.details

lemma details_addDetail (line : String) {findings : List Finding} (h : findings ≠ []) :
    (addDetail line findings).flatMap Finding.details =
      findings.flatMap Finding.details ++ [line] := by
  obtain ⟨before, f, rfl⟩ := (List.eq_nil_or_concat' findings).resolve_left h
  simp [addDetail_concat]

lemma lines_apply (w : Writer) (call : WriterCall) :
    ∃ lost, (w.apply call).log = lost.map lostWarning ∧
      (w.apply call).value.lines ++ lost = w.lines ++ call.line?.toList := by
  cases call with
  | start tag level title description =>
    exact ⟨[], rfl, by simp [apply, start, lines, WriterCall.line?]⟩
  | detail line =>
    by_cases ho : (w.isOpen && !w.findings.isEmpty) = true
    · have hf : w.findings ≠ [] := by
        intro hn
        simp [hn] at ho
      refine ⟨[], by simp [apply, detail, ho], ?_⟩
      simp [apply, detail, ho, lines, details_addDetail line hf, WriterCall.line?]
    · refine ⟨[line], ?_, ?_⟩
      · simp [apply, detail, ho, Log.warning, lostWarning]
      · simp [apply, detail, ho, lines, WriterCall.line?]
  | close => exact ⟨[], rfl, rfl⟩
  | setMetadata key value hidden => exact ⟨[], rfl, rfl⟩

lemma lines_run (w : Writer) (calls : List WriterCall) :
    ∃ lost, (w.run calls).log = lost.map lostWarning ∧
      ((w.run calls).value.lines ++ lost).Perm (w.lines ++ calls.filterMap WriterCall.line?) := by
  induction calls generalizing w with
  | nil => exact ⟨[], rfl, by simp [run]⟩
  | cons call calls ih =>
    obtain ⟨first, hlog, heq⟩ := w.lines_apply call
    obtain ⟨rest, hlogs, hp⟩ := ih (w.apply call).value
    refine ⟨first ++ rest, ?_, ?_⟩
    · rw [run, Logged.log_bind, hlog, hlogs, List.map_append]
    · have hlines : (call :: calls).filterMap WriterCall.line? =
          call.line?.toList ++ calls.filterMap WriterCall.line? := by
        rw [List.filterMap_cons]
        cases call.line? <;> rfl
      -- what the first call loses is moved behind what the others lose, and back
      have hout : (((w.apply call).value.run calls).value.lines ++ (first ++ rest)).Perm
          (((w.apply call).value.run calls).value.lines ++ rest ++ first) := by
        rw [List.append_assoc]
        exact List.perm_append_comm.append_left _
      have hback : ((w.apply call).value.lines ++ calls.filterMap WriterCall.line? ++ first).Perm
          (w.lines ++ call.line?.toList ++ calls.filterMap WriterCall.line?) := by
        rw [← heq, List.append_assoc, List.append_assoc]
        exact List.perm_append_comm.append_left _
      rw [run, Logged.value_bind, hlines, ← List.append_assoc w.lines]
      exact (hout.trans (hp.append_right first)).trans hback

end Lost

end Writer

namespace ReportEvent

def callOn? (i : Nat) : ReportEvent → Option WriterCall
  | call j c => if j = i then some c else none
  | record _ => none
  | merge _ => none

def isMerge (i : Nat) : ReportEvent → Bool
  | merge j => j = i
  | record _ => false
  | call _ _ => false

end ReportEvent

namespace Session

def callsSince (i : Nat) (events : List ReportEvent) : List WriterCall :=
  (events.rtakeWhile fun event => !event.isMerge i).filterMap (ReportEvent.callOn? i)

def mergedFindings (before : List ReportEvent) : List ReportEvent → List Finding
  | [] => []
  | .merge i :: rest =>
    Writer.grouped (callsSince i before) ++ mergedFindings (before ++ [.merge i]) rest
  | .record w :: rest => mergedFindings (before ++ [.record w]) rest
  | .call i c :: rest => mergedFindings (before ++ [.call i c]) rest

section Events

variable (s : Session) (events : List ReportEvent)

lemma callsSince_concat_merge (i : Nat) : callsSince i (events ++ [.merge i]) = [] := by
  simp [callsSince, ReportEvent.isMerge]

lemma callsSince_concat (i : Nat) {event : ReportEvent} (h : event.isMerge i = false) :
    callsSince i (events ++ [event]) = callsSince i events ++ (event.callOn? i).toList := by
  have ht : (events ++ [event]).rtakeWhile (fun event => !event.isMerge i) =
      events.rtakeWhile (fun event => !event.isMerge i) ++ [event] := by
    simp [h]
  rw [callsSince, ht, List.filterMap_append]
  rfl

lemma run_concat (event : ReportEvent) : s.run (events ++ [event]) = (s.run events).step event :=
  List.foldl_append

lemma writers_run (i : Nat) :
    (run {} events).writers i = (Writer.empty.run (callsSince i events)).value := by
  induction events using List.reverseRecOn with
  | nil => rfl
  | append_singleton events event ih =>
    rw [run_concat]
    cases event with
    | record w =>
      rw [callsSince_concat events i rfl]
      simpa [step, ReportEvent.callOn?] using ih
    | call j c =>
      rw [callsSince_concat events i rfl]
      by_cases hj : j = i
      · subst hj
        simp [step, ReportEvent.callOn?, Writer.value_run_concat, ih]
      · simpa [step, ReportEvent.callOn?, hj, Ne.symm hj] using ih
    | merge j =>
      by_cases hj : j = i
      · subst hj
        rw [callsSince_concat_merge]
        simp [step, Writer.run]
      · have hm : (ReportEvent.merge j).isMerge i = false := by simp [ReportEvent.isMerge, hj]
        rw [callsSince_concat events i hm]
        simpa [step, ReportEvent.callOn?, Ne.symm hj] using ih

lemma findings_run (before : List ReportEvent) :
    (run {} (before ++ events)).report.findings =
      (run {} before).report.findings ++ mergedFindings before events := by
  induction events generalizing before with
  | nil => simp [mergedFindings]
  | cons event events ih =>
    have hs := ih (before ++ [event])
    rw [List.append_assoc, List.singleton_append, run_concat] at hs
    rw [hs]
    cases event with
    | record w => rfl
    | call i c => rfl
    | merge i =>
      rw [mergedFindings, step, Report.findings_merge, writers_run, Writer.findings_run_empty,
        List.append_assoc]

lemma findings_run_prefix_append (later : List ReportEvent) :
    (run {} events).report.findings <+: (run {} (events ++ later)).report.findings := by
  rw [findings_run]
  exact List.prefix_append _ _

lemma callsSince_append (i : Nat) {between : List ReportEvent}
    (h : ∀ event ∈ between, event.isMerge i = false) :
    callsSince i (events ++ between) =
      callsSince i events ++ between.filterMap (ReportEvent.callOn? i) := by
  induction between generalizing events with
  | nil => simp
  | cons event between ih =>
    have hc := callsSince_concat events i (h event List.mem_cons_self)
    have hrest := ih (events ++ [event]) fun e he => h e (List.mem_cons_of_mem event he)
    rw [List.append_assoc, List.singleton_append, hc, List.append_assoc] at hrest
    rw [hrest, List.filterMap_cons]
    cases event.callOn? i <;> rfl

lemma closedFindings_run (i : Nat) {between : List ReportEvent}
    (h : ∀ event ∈ between, event.isMerge i = false) :
    ((run {} events).writers i).closedFindings <+:
      ((run {} (events ++ between)).writers i).closedFindings := by
  rw [writers_run, writers_run, callsSince_append events i h, Writer.value_run_append]
  exact Writer.closedFindings_run _ _

lemma closedFindings_merged (i : Nat) (later : List ReportEvent) :
    (run {} events).report.findings ++ ((run {} events).writers i).closedFindings <+:
      (run {} (events ++ .merge i :: later)).report.findings := by
  rw [findings_run, mergedFindings, ← Writer.findings_run_empty, ← writers_run,
    List.prefix_append_right_inj]
  exact (Writer.closedFindings_prefix_findings _).trans (List.prefix_append _ _)

/-- What holds after some events on writers and one report, and whatever happens later. -/
structure Settled : Prop where
  report : (run {} events).report.findings = mergedFindings [] events
  writer : ∀ i, ((run {} events).writers i).findings = Writer.grouped (callsSince i events)
  isOpen : ∀ i, ((run {} events).writers i).isOpen = true ↔ Writer.LastStarts (callsSince i events)
  -- a line is in a finding of the writer, or was lost with a warning
  lines : ∀ i, ∃ lost,
    (Writer.empty.run (callsSince i events)).log = lost.map Writer.lostWarning ∧
      (((run {} events).writers i).lines ++ lost).Perm
        ((callsSince i events).filterMap WriterCall.line?)
  merged_stay : ∀ later,
    (run {} events).report.findings <+: (run {} (events ++ later)).report.findings
  closed_stay : ∀ i between, (∀ event ∈ between, event.isMerge i = false) →
    ((run {} events).writers i).closedFindings <+:
      ((run {} (events ++ between)).writers i).closedFindings
  closed_merged : ∀ i later,
    (run {} events).report.findings ++ ((run {} events).writers i).closedFindings <+:
      (run {} (events ++ .merge i :: later)).report.findings

end Events

theorem settled_run (events : List ReportEvent) : Settled events where
  report := by
    have h := findings_run events []
    rwa [List.nil_append] at h
  writer i := by rw [writers_run, Writer.findings_run_empty]
  isOpen i := by rw [writers_run, Writer.isOpen_run_empty]
  lines i := by
    rw [writers_run]
    exact Writer.lines_run Writer.empty (callsSince i events)
  merged_stay later := findings_run_prefix_append events later
  closed_stay i _ h := closedFindings_run events i h
  closed_merged i later := closedFindings_merged events i later

end Session

end ApkAudit
