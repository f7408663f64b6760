import ApkAudit.Audit.Detector
import Mathlib.Tactic.Common

/-! Findings that a detector asks for one after the other are found in its writer as they are. -/

namespace ApkAudit

namespace Writer

lemma value_run_append (w : Writer) (before after : List WriterCall) :
    (w.run (before ++ after)).value = ((w.run before).value.run after).value := by
  induction before generalizing w with
  | nil => rfl
  | cons call before ih => exact ih (w.apply call).value

lemma addDetail_concat (line : String) (findings : List Finding) (f : Finding) :
    addDetail line (findings ++ [f]) = findings ++ [{ f with details := f.details ++ [line] }] := by
  induction findings with
  | nil => rfl
  | cons g findings ih =>
    obtain ⟨next, rest, hn⟩ := List.exists_cons_of_ne_nil
      (List.append_ne_nil_of_right_ne_nil findings (List.cons_ne_nil f []))
    rw [List.cons_append, hn, addDetail, ← hn, ih, List.cons_append]

lemma findings_run_details (lines : List String) {w : Writer} (ho : w.isOpen = true)
    {findings : List Finding} {f : Finding} (hf : w.findings = findings ++ [f]) :
    (w.run (lines.map .detail)).value.findings =
      findings ++ [{ f with details := f.details ++ lines }] := by
  induction lines generalizing w f with
  | nil => simpa [run] using hf
  | cons line lines ih =>
    have hd : (w.detail line).value =
        { w with findings := findings ++ [{ f with details := f.details ++ [line] }] } := by
      simp [detail, ho, hf, addDetail_concat]
    simp only [List.map_cons, run, apply, Logged.value_bind, hd]
    refine Eq.trans (ih ?_ rfl) ?_
    · exact ho
    · simp

lemma findings_run_calls (w : Writer) {f : Finding} :
    (w.run f.calls).value.findings = w.findings ++ [f] := by
  have hr :=
    findings_run_details (w := w.start f.tag f.level f.title f.description) f.details rfl rfl
  simpa [Finding.calls, run, apply] using hr

lemma findings_run_flatMap (w : Writer) (findings : List Finding) :
    (w.run (findings.flatMap Finding.calls)).value.findings = w.findings ++ findings := by
  induction findings generalizing w with
  | nil => simp [run]
  | cons f findings ih =>
    rw [List.flatMap_cons, value_run_append, ih, findings_run_calls, List.append_assoc,
      List.singleton_append]

end Writer

end ApkAudit
