import ApkAudit.Proofs.Smali.RoundTrip
import ApkAudit.Proofs.Smali.SourceLog

/-! Calls with something behind them on the line.  The descriptor of the called method is read up to
the next blank, so a comment does no harm, but a comma does. -/

namespace ApkAudit

open Text
open CodeIndex (Operation)

namespace Smali

structure Reference where
  target : Target
  name : List Char
  parameters : List Char
  result : List Char
  name_ne_nil : name ≠ []
  name_feed : '\n' ∉ name
  paren_not_mem_name : '(' ∉ name
  parameters_feed : '\n' ∉ parameters
  paren_not_mem_parameters : ')' ∉ parameters
  result_ne_nil : result ≠ []
  result_solid : IsSolid result

namespace Reference

def descriptor (r : Reference) : List Char :=
  '(' :: (r.parameters ++ ')' :: r.result)

def method (r : Reference) : Method :=
  ⟨String.ofList r.target.className, String.ofList r.name, String.ofList r.descriptor⟩

def behindTarget (r : Reference) (trailing : List Char) : List Char :=
  "->".toList ++ (r.name ++ '(' :: (r.parameters ++ ')' :: (r.result ++ trailing)))

end Reference

structure InvokeLine where
  indent : List Char
  kind : List Char
  gap : List Char
  registers : List Char
  blanks : List Char
  trailing : List Char
  indent_ok : IsIndent indent
  kind_ok : IsKind kind
  gap_ne_nil : gap ≠ []
  gap_ok : IsIndent gap
  brace_not_mem : '\x7d' ∉ registers
  registers_feed : '\n' ∉ registers
  blanks_ok : IsIndent blanks
  trailing_feed : '\n' ∉ trailing

namespace InvokeLine

def text (l : InvokeLine) (r : Reference) : List Char :=
  l.indent ++ ("invoke-".toList ++ (l.kind ++ (l.gap ++ '\x7b' :: (l.registers ++ '\x7d' :: ',' ::
    (l.blanks ++ (r.target.descriptor ++ r.behindTarget l.trailing))))))

def EndsClear (l : InvokeLine) : Prop :=
  ∀ c ∈ l.trailing.head?, isBlank c = true

def run (l : InvokeLine) : List Char :=
  l.trailing.takeWhile fun c => !isBlank c

lemma run_eq_nil_iff (l : InvokeLine) : l.run = [] ↔ l.EndsClear := by
  rw [run, EndsClear]
  cases l.trailing with
  | nil => simp
  | cons c rest => simp [List.takeWhile_cons]

end InvokeLine

section Reading

lemma signature?_of_blank {name : List Char} (hs : ¬ IsSolid name) (hp : '(' ∉ name)
    (rest : List Char) : signature? (name ++ rest) = none := by
  obtain ⟨front, b, back, rfl, hf, hb⟩ := exists_first_blank hs
  have hname : ∀ c ∈ front, (!isBlank c && decide (c ≠ '(')) = true := by
    intro c hc
    rw [hf c hc, ne_of_not_mem hp c (List.mem_append_left _ hc)]
    rfl
  have hstop : (!isBlank b && decide (b ≠ '(')) = false := by
    rw [hb]
    rfl
  have hparen : b ≠ '(' := by
    rintro rfl
    cases hb
  rw [List.append_assoc, List.cons_append]
  unfold signature?
  simp only [dropWhile_stop hname hstop]
  split
  · next h => exact absurd (List.cons.inj h).1 hparen
  · rfl

variable (r : Reference) (l : InvokeLine)

lemma callOf?_behindTarget (hs : IsSolid r.name) (descriptor trailing : List Char) :
    callOf? descriptor (r.behindTarget trailing) = some (.call descriptor r.name
      (r.descriptor ++ trailing.takeWhile fun c => !isBlank c)) := by
  rw [Reference.behindTarget, callOf?_arrow, signature?_append r.name_ne_nil hs
    r.paren_not_mem_name r.paren_not_mem_parameters r.result_ne_nil r.result_solid]
  simp [Reference.descriptor]

lemma callOf?_behindTarget_of_blank (hs : ¬ IsSolid r.name) (descriptor trailing : List Char) :
    callOf? descriptor (r.behindTarget trailing) = none := by
  rw [Reference.behindTarget, callOf?_arrow, signature?_of_blank hs r.paren_not_mem_name]
  rfl

/-- Where the method cannot be read, the brackets and the `L` of an array of objects may still be
taken for an array of primitives. -/
lemma Target.misread (t : Target) {rest : List Char} {s : Statement}
    (hn : callOf? t.descriptor rest = none)
    (h : (callOnClass? (t.descriptor ++ rest) <|> callOnPrimitive? (t.descriptor ++ rest)) =
      some s) :
    ∃ descriptor name signature, s = .call descriptor name signature ∧
      classNameChars descriptor ≠ t.className := by
  cases t with
  | primitives element further =>
    rw [descriptor] at hn h
    rw [List.append_assoc, List.singleton_append, callOnClass?_primitives,
      callOnPrimitive?_letter element.letter_ne_bracket element.isUpper_letter, hn] at h
    cases h
  | object path dimensions hne hs hf =>
    rw [descriptor] at hn h
    rw [callOnClass?_object hne hs, hn] at h
    have h : callOnPrimitive? (List.replicate dimensions '[' ++ 'L' :: path ++ [';'] ++ rest) =
        some s := h
    rw [List.append_assoc, List.append_assoc] at h
    cases dimensions with
    | zero => cases h
    | succ further =>
      rw [List.cons_append, callOnPrimitive?_letter rfl rfl] at h
      obtain ⟨name, signature, rfl, harrow⟩ := of_callOf? h
      refine ⟨_, name, signature, rfl, fun he => ?_⟩
      obtain ⟨c, path, rfl⟩ := List.exists_cons_of_ne_nil hne
      have harrow : ['-', '>'] <+: c :: path ++ ([';'] ++ rest) := harrow
      obtain ⟨rfl, -⟩ := List.cons_prefix_cons.mp harrow
      rw [classNameChars_brackets rfl] at he
      simp [className, dots] at he

def Statement.callee? : Statement → Option Method
  | .call descriptor name signature =>
    some ⟨String.ofList (classNameChars descriptor), String.ofList name, String.ofList signature⟩
  | _ => none

lemma behindTarget_append (trailing : List Char) :
    r.behindTarget trailing = r.behindTarget [] ++ trailing := by
  simp only [Reference.behindTarget, List.append_assoc, List.cons_append, List.append_nil]

lemma getLast?_behindTarget (front : List Char) :
    (front ++ r.behindTarget []).getLast? = some (r.result.getLast r.result_ne_nil) := by
  have hb : front ++ r.behindTarget [] =
      (front ++ ("->".toList ++ (r.name ++ '(' :: (r.parameters ++ [')'])))) ++ r.result := by
    simp only [Reference.behindTarget, List.append_assoc, List.cons_append, List.append_nil,
      List.nil_append]
  rw [hb, List.getLast?_append_of_ne_nil _ r.result_ne_nil,
    List.getLast?_eq_some_getLast r.result_ne_nil]

lemma trimChars_text :
    trimChars (l.text r) =
      "invoke-".toList ++ (l.kind ++ (l.gap ++ '\x7b' :: (l.registers ++ '\x7d' :: ',' ::
        (l.blanks ++ (r.target.descriptor ++ r.behindTarget (trimEndChars l.trailing)))))) := by
  obtain ⟨front, hf⟩ : ∃ front, front = "nvoke-".toList ++ (l.kind ++ (l.gap ++ '\x7b' ::
    (l.registers ++ '\x7d' :: ',' :: (l.blanks ++ r.target.descriptor)))) := ⟨_, rfl⟩
  -- the line up to the end of the result, where trimming from the right stops
  have hline : ∀ trailing, "invoke-".toList ++ (l.kind ++ (l.gap ++ '\x7b' :: (l.registers ++
      '\x7d' :: ',' :: (l.blanks ++ (r.target.descriptor ++ r.behindTarget trailing))))) =
      'i' :: front ++ r.behindTarget [] ++ trailing := by
    intro trailing
    have hi : "invoke-".toList = 'i' :: "nvoke-".toList := rfl
    rw [behindTarget_append, hf, hi]
    simp only [List.append_assoc, List.cons_append]
  have hsolid := r.result_solid _ (List.getLast_mem r.result_ne_nil)
  rw [InvokeLine.text, trimChars_append l.indent_ok, hline, hline, trimChars, List.cons_append,
    List.cons_append, trimStartChars_cons rfl, ← List.cons_append, ← List.cons_append,
    trimEndChars_append (getLast?_behindTarget r ('i' :: front)) hsolid]

lemma read?_text :
    Statement.read? (trimChars (l.text r)) =
      (callOnClass? (r.target.descriptor ++ r.behindTarget (trimEndChars l.trailing)) <|>
        callOnPrimitive? (r.target.descriptor ++ r.behindTarget (trimEndChars l.trailing))) := by
  rw [trimChars_text, read?_invoke, call?_eq r.target l.kind_ok l.brace_not_mem l.gap_ne_nil
    l.gap_ok l.blanks_ok]

def InvokeLine.callee? (l : InvokeLine) (r : Reference) : Option Method :=
  (Statement.read? (trimChars (l.text r))).bind Statement.callee?

lemma callee?_of_solid (hs : IsSolid r.name) :
    l.callee? r = some ⟨String.ofList r.target.className, String.ofList r.name,
      String.ofList (r.descriptor ++ l.run)⟩ := by
  have hc := callOf?_behindTarget r hs r.target.descriptor (trimEndChars l.trailing)
  rw [InvokeLine.callee?, read?_text, r.target.callOn_eq hc, takeWhile_trimEndChars,
    Option.bind_some, Statement.callee?, r.target.classNameChars_descriptor, InvokeLine.run]

lemma callee?_eq_iff : l.callee? r = some r.method ↔ IsSolid r.name ∧ l.EndsClear := by
  by_cases hs : IsSolid r.name
  · rw [callee?_of_solid r l hs, Reference.method, ← InvokeLine.run_eq_nil_iff]
    simp [hs]
  · have hn := callOf?_behindTarget_of_blank r hs r.target.descriptor (trimEndChars l.trailing)
    simp only [InvokeLine.callee?, read?_text, hs, false_and, iff_false, Option.bind_eq_some_iff,
      not_exists, not_and]
    intro s h hm
    obtain ⟨descriptor, name, signature, rfl, hne⟩ := r.target.misread hn h
    simp only [Statement.callee?, Reference.method, Option.some.injEq, Method.mk.injEq] at hm
    apply hne
    simpa using congrArg String.toList hm.1

end Reading

section Sources

def InvokeLine.within (l : InvokeLine) (r : Reference) (before : String) (ending : List Char)
    (after : String) : String :=
  before ++ "\n" ++ String.ofList (l.text r ++ (ending ++ after.toList))

variable (r : Reference) (l : InvokeLine)

lemma Reference.no_feed_behindTarget {trailing : List Char} (ht : '\n' ∉ trailing) :
    '\n' ∉ r.behindTarget trailing := by
  simp [behindTarget, r.name_feed, r.parameters_feed, r.result_solid.no_feed, ht]

lemma InvokeLine.no_feed_text : '\n' ∉ l.text r := by
  have hk : '\n' ∉ l.kind := no_feed_of_ascii l.kind_ok.2
  simp [text, l.indent_ok.no_feed, hk, l.gap_ok.no_feed, l.registers_feed, l.blanks_ok.no_feed,
    r.target.no_feed, r.no_feed_behindTarget l.trailing_feed]

variable {before after : String} {ending : List Char} {m : Method}

lemma statements_within (he : LineEnd ending after.toList) :
    statements (l.within r before ending after) = statements before ++
      ((Statement.read? (trimChars (l.text r))).toList ++ statements after) := by
  rw [InvokeLine.within, statements_append]
  congr 1
  simp only [statements, String.toList_ofList]
  exact filterMap_read?_lines (l.no_feed_text r) he

lemma operations_within (he : LineEnd ending after.toList)
    (hm : (Scope.after before).method = some m) :
    operations (l.within r before ending after) = operations before ++
      ((l.callee? r).toList.map (.call m) ++
        (Scope.after before).operations (statements after)) := by
  rw [operations, statements_within r l he, Scope.operations_append, operations]
  congr 1
  rw [InvokeLine.callee?]
  cases hs : Statement.read? (trimChars (l.text r)) with
  | none => rfl
  | some s =>
    have hc : call? (trimChars (l.text r)) = some s := by
      rw [trimChars_text, read?_invoke] at hs
      rw [trimChars_text, hs]
    obtain ⟨descriptor, name, signature, rfl⟩ := of_call? hc
    have hm' : ((statements before).foldl Scope.next {}).method = some m := hm
    simp [Scope.operations, Scope.operation?, Scope.next, Statement.callee?, Scope.after, hm']

end Sources

end Smali

namespace CodeIndex

structure Records (index : CodeIndex) (caller callee : Method) : Prop where
  mem_callees : callee ∈ index.calleesOf caller
  entry : ∃ e, (index.methods.filter fun e => e.method = callee) = [e] ∧ caller ∈ e.callers

section Entries

variable {log : List Operation} {index : CodeIndex}

lemma Reflects.filter_methods (h : Reflects log index) {m : Method} (hm : m ∈ mentionedIn log) :
    (index.methods.filter fun e => e.method = m) = [entryIn log m] := by
  have hf : (mentionedIn log).filter (fun n => n = m) = [m] := by
    rw [List.filter_eq, List.count_eq_one_of_mem h.methods.nodup hm]
    rfl
  rw [h.methods.entries_eq, List.filter_map]
  exact congrArg (List.map (entryIn log)) hf

lemma Reflects.records_iff (h : Reflects log index) {caller callee : Method} :
    index.Records caller callee ↔ .call caller callee ∈ log := by
  have hcallees : callee ∈ index.calleesOf caller ↔ .call caller callee ∈ log := by
    rw [h.calleesOf_eq_entryIn, mem_callees_entryIn]
  constructor
  · intro hr
    exact hcallees.mp hr.mem_callees
  · intro hc
    have hm : callee ∈ mentionedIn log := (mem_mentionedIn log).mpr (.inr ⟨caller, .inr hc⟩)
    exact ⟨hcallees.mpr hc, _, h.filter_methods hm, (mem_callers_entryIn log).mpr hc⟩

end Entries

end CodeIndex

namespace Smali

/-- A call in a method is recorded as what it says exactly if the name of the called method has no
blanks and only a blank, or nothing, stands behind it.  All calls of this kind share the one entry
of the called method; any other call is not found there, unless another line made the same one. -/
theorem call_recorded_iff (r : Reference) (l : InvokeLine) (log : List Operation)
    (before after : String) (ending : List Char) (he : LineEnd ending after.toList) (m : Method)
    (hm : (Scope.after before).method = some m) :
    (operations (l.within r before ending after) = operations before ++ .call m r.method ::
          (Scope.after before).operations (statements after) ↔
        IsSolid r.name ∧ l.EndsClear) ∧
      (((CodeIndex.ofLog log).addSource (l.within r before ending after)).Records m r.method ↔
        (IsSolid r.name ∧ l.EndsClear) ∨ .call m r.method ∈ log ++ operations before ++
          (Scope.after before).operations (statements after)) := by
  have hcalls : (l.callee? r).toList.map (Operation.call m) = [.call m r.method] ↔
      IsSolid r.name ∧ l.EndsClear := by
    rw [← callee?_eq_iff]
    cases l.callee? r <;> simp
  constructor
  · rw [operations_within r l he hm, ← hcalls, List.append_cancel_left_eq, ← List.singleton_append,
      List.append_cancel_right_eq]
  · rw [CodeIndex.addSource_ofLog, (CodeIndex.reflects_ofLog _).records_iff,
      operations_within r l he hm, ← callee?_eq_iff]
    simp only [List.mem_append, List.mem_map, Option.mem_toList,
      Operation.call.injEq, true_and, exists_eq_right]
    simp only [or_assoc, or_left_comm]

def handleInvoke : Reference where
  target := .object "java/lang/invoke/MethodHandle".toList 0 (by decide) (by decide) (by decide)
  name := "invoke".toList
  parameters := "[Ljava/lang/Object;".toList
  result := "Ljava/lang/Object;".toList
  name_ne_nil := by decide
  name_feed := by decide
  paren_not_mem_name := by decide
  parameters_feed := by decide
  paren_not_mem_parameters := by decide
  result_ne_nil := by decide
  result_solid := List.forall_iff_forall_mem.mp (by decide)

def invokeOnV0 (kind trailing : List Char) (hk : IsKind kind) (ht : '\n' ∉ trailing) :
    InvokeLine where
  indent := [' ']
  kind := kind
  gap := [' ']
  registers := "v0".toList
  blanks := [' ']
  trailing := trailing
  indent_ok := isIndent_space
  kind_ok := hk
  gap_ne_nil := List.cons_ne_nil _ _
  gap_ok := isIndent_space
  brace_not_mem := by decide
  registers_feed := by decide
  blanks_ok := isIndent_space
  trailing_feed := ht

def commentedCall : InvokeLine :=
  invokeOnV0 "virtual/range".toList "\t# handle".toList
    ⟨by decide, List.forall_iff_forall_mem.mp (by decide)⟩ (by decide)

def polymorphicCall : InvokeLine :=
  invokeOnV0 "polymorphic".toList ", ()V".toList
    ⟨by decide, List.forall_iff_forall_mem.mp (by decide)⟩ (by decide)

lemma solid_handleInvoke : IsSolid handleInvoke.name :=
  List.forall_iff_forall_mem.mp (by decide)

theorem call_recorded_iff_commented :
    (IsSolid handleInvoke.name ∧ commentedCall.EndsClear) ∧
      (Scope.after openMethod).method = some ⟨"A", "m", "()V"⟩ ∧
      ((CodeIndex.ofLog []).addSource (commentedCall.within handleInvoke openMethod [] "")).Records
        ⟨"A", "m", "()V"⟩ handleInvoke.method := by
  have hclear : IsSolid handleInvoke.name ∧ commentedCall.EndsClear := by
    refine ⟨solid_handleInvoke, ?_⟩
    rintro c ⟨⟩
    rfl
  exact ⟨hclear, method_after_openMethod, ((call_recorded_iff handleInvoke commentedCall []
    openMethod "" [] .textEnd _ method_after_openMethod).2).mpr (.inl hclear)⟩

/-- The comma before a prototype becomes part of the descriptor, and the call is not found at the
method that is called. -/
theorem prototype_joins_descriptor :
    operations (polymorphicCall.within handleInvoke openMethod [] "") =
        operations openMethod ++ [.call ⟨"A", "m", "()V"⟩
          ⟨"java.lang.invoke.MethodHandle", "invoke",
            "([Ljava/lang/Object;)Ljava/lang/Object;,"⟩] ∧
      ¬ ((CodeIndex.ofLog []).addSource (polymorphicCall.within handleInvoke openMethod [] "")
        ).Records ⟨"A", "m", "()V"⟩ handleInvoke.method := by
  have hcallee : polymorphicCall.callee? handleInvoke = some
      ⟨"java.lang.invoke.MethodHandle", "invoke", "([Ljava/lang/Object;)Ljava/lang/Object;,"⟩ := by
    rw [callee?_of_solid _ _ solid_handleInvoke]
    decide
  have ho : operations (polymorphicCall.within handleInvoke openMethod [] "") =
      operations openMethod ++ [.call ⟨"A", "m", "()V"⟩
        ⟨"java.lang.invoke.MethodHandle", "invoke",
          "([Ljava/lang/Object;)Ljava/lang/Object;,"⟩] := by
    rw [operations_within handleInvoke polymorphicCall .textEnd method_after_openMethod, hcallee]
    rfl
  refine ⟨ho, ?_⟩
  rw [CodeIndex.addSource_ofLog, (CodeIndex.reflects_ofLog _).records_iff, List.nil_append, ho]
  decide +kernel

end Smali

end ApkAudit
