import ApkAudit.Proofs.Smali.Reading
import ApkAudit.Proofs.Smali.SourceLog

/-! Sources of any kind, also ones with unended methods, code outside of methods and methods outside
of classes, give an index in which all that calls or reads is declared, and in which a method is
declared only behind the header of its class. -/

namespace ApkAudit

open Text

def CodeIndex.Operation.actor? : CodeIndex.Operation → Option Method
  | .declare _ => none
  | .call caller _ => some caller
  | .read _ reader _ => some reader

namespace Smali

open CodeIndex (Operation)

section Headers

structure SetsApart (words : List Char) : Prop where
  chars : ∀ c ∈ words, isBlank c = true ∨ isModifierChar c = true
  first : ∃ c ∈ words.head?, isBlank c = true
  last : ∃ c ∈ words.getLast?, isBlank c = true

structure IsHeaderOf (path line : List Char) : Prop where
  path_ne_nil : path ≠ []
  path_solid : IsSolid path
  stop_not_mem : ';' ∉ path
  parts : ∃ words rest, SetsApart words ∧
    trimChars line = ".class".toList ++ (words ++ ('L' :: path ++ ';' :: rest))

lemma of_afterBlanks? {cs rest : List Char} (h : afterBlanks? cs = some rest) :
    ∃ c gap, cs = c :: gap ++ rest ∧ ∀ d ∈ c :: gap, isBlank d = true := by
  cases cs with
  | nil => cases h
  | cons c cs =>
    simp only [afterBlanks?, Option.ite_none_right_eq_some, Option.some.injEq] at h
    obtain ⟨hc, rfl⟩ := h
    refine ⟨c, cs.takeWhile isBlank, ?_, ?_⟩
    · rw [trimStartChars, List.cons_append, List.takeWhile_append_dropWhile]
    · exact List.forall_mem_cons.mpr ⟨hc, fun d hd => List.mem_takeWhile_imp hd⟩

lemma dropModifiers_spec (fuel : Nat) (cs : List Char) :
    ∃ words, cs = words ++ dropModifiers fuel cs ∧
      (∀ c ∈ words, isBlank c = true ∨ isModifierChar c = true) ∧
      ∀ c ∈ words.getLast?, isBlank c = true := by
  induction fuel generalizing cs with
  | zero => exact ⟨[], rfl, by simp, by simp⟩
  | succ fuel ih =>
    rw [dropModifiers]
    split
    · exact ⟨[], rfl, by simp, by simp⟩
    · cases hb : afterBlanks? (cs.dropWhile isModifierChar) with
      | none => exact ⟨[], rfl, by simp, by simp⟩
      | some rest =>
        obtain ⟨c, gap, hgap, hblank⟩ := of_afterBlanks? hb
        obtain ⟨words, hw, hchars, hlast⟩ := ih rest
        refine ⟨cs.takeWhile isModifierChar ++ (c :: gap ++ words), ?_, ?_, ?_⟩
        · rw [List.append_assoc, List.append_assoc, ← hw, ← hgap,
            List.takeWhile_append_dropWhile]
        · intro d hd
          simp only [List.mem_append] at hd
          rcases hd with hd | hd | hd
          · exact .inr (List.mem_takeWhile_imp hd)
          · exact .inl (hblank d hd)
          · exact hchars d hd
        · intro d hd
          rw [List.getLast?_append_of_ne_nil _ (by simp), List.getLast?_append] at hd
          rcases Option.or_eq_some_iff.mp hd with hd | ⟨-, hd⟩
          · exact hlast d hd
          · exact hblank d (List.mem_of_getLast? hd)

lemma of_classDescriptor? {stop : Char → Bool} {cs descriptor after : List Char}
    (h : classDescriptor? stop cs = some (descriptor, after)) :
    ∃ path, descriptor = 'L' :: path ++ [';'] ∧ cs = 'L' :: path ++ ';' :: after ∧ path ≠ [] ∧
      ∀ c ∈ path, c ≠ ';' ∧ stop c = false := by
  unfold classDescriptor? at h
  split at h
  · next rest =>
    simp only at h
    split at h
    · next after' hd =>
      simp only [Option.ite_none_left_eq_some, Option.some.injEq, Prod.mk.injEq,
        List.isEmpty_iff] at h
      obtain ⟨hn, rfl, rfl⟩ := h
      refine ⟨_, rfl, ?_, hn, fun c hc => ?_⟩
      · rw [List.cons_append, ← hd, List.takeWhile_append_dropWhile]
      · simpa using List.mem_takeWhile_imp hc
    · cases h
  · cases h

lemma of_classHeader? {line descriptor : List Char}
    (h : classHeader? (trimChars line) = some (.classHeader descriptor)) :
    ∃ path, descriptor = 'L' :: path ++ [';'] ∧ IsHeaderOf path line := by
  simp only [classHeader?, afterHeader?, Option.bind_eq_bind, Option.bind_eq_some_iff,
    Option.some.injEq, Prod.exists, Statement.classHeader.injEq] at h
  obtain ⟨-, ⟨behind, hstart, text, hblanks, rfl⟩, d, rest, hd, rfl⟩ := h
  obtain ⟨c, gap, hgap, hblank⟩ := of_afterBlanks? hblanks
  obtain ⟨words, hwords, hchars, hlast⟩ := dropModifiers_spec text.length text
  obtain ⟨path, rfl, hpath, hn, hok⟩ := of_classDescriptor? hd
  refine ⟨path, rfl, hn, fun e he => (hok e he).2, fun hm => (hok _ hm).1 rfl,
    c :: gap ++ words, rest, ⟨?_, ⟨c, rfl, hblank c List.mem_cons_self⟩, ?_⟩, ?_⟩
  · intro e he
    rcases List.mem_append.mp he with he | he
    · exact .inl (hblank e he)
    · exact hchars e he
  · -- without words, the gap behind the keyword is all there is
    have hgl := List.getLast?_eq_some_getLast (List.cons_ne_nil c gap)
    rw [List.getLast?_append]
    cases hl : words.getLast? with
    | none => exact ⟨_, hgl, hblank _ (List.getLast_mem _)⟩
    | some e => exact ⟨e, rfl, hlast e hl⟩
  · rw [of_dropStart? hstart, hgap, List.append_assoc, ← hpath, ← hwords]

lemma classHeader?_of_read? {line descriptor : List Char}
    (h : Statement.read? line = some (.classHeader descriptor)) :
    classHeader? line = some (.classHeader descriptor) := by
  have hm : methodHeader? line ≠ some (.classHeader descriptor) := by
    simp [methodHeader?, Option.bind_eq_some_iff]
  have he : endMethod? line ≠ some (.classHeader descriptor) := by
    simp [endMethod?, Option.bind_eq_some_iff]
  have hc : call? line ≠ some (.classHeader descriptor) := by
    intro hc
    obtain ⟨_, _, _, he⟩ := of_call? hc
    cases he
  have hl : loadString? line ≠ some (.classHeader descriptor) := by
    simp [loadString?, Option.bind_eq_some_iff]
  simpa [Statement.read?, hm, he, hc, hl] using h

lemma of_mem_statements {source : String} {descriptor : List Char}
    (h : .classHeader descriptor ∈ statements source) :
    ∃ line ∈ lines source.toList, ∃ path,
      descriptor = 'L' :: path ++ [';'] ∧ IsHeaderOf path line := by
  obtain ⟨line, hl, hr⟩ := List.mem_filterMap.mp h
  exact ⟨line, hl, of_classHeader? (classHeader?_of_read? hr)⟩

end Headers

section Scopes

def Statement.classHeader? : Statement → Option (List Char)
  | .classHeader descriptor => some descriptor
  | _ => none

def lastClass? (front : List Statement) : Option (List Char) :=
  front.reverse.findSome? Statement.classHeader?

/-- Some statements declare a method: its header stands behind the header of its class, with no
other class between them. -/
def Declared (statements : List Statement) (m : Method) : Prop :=
  ∃ front name signature rest descriptor,
    statements = front ++ .methodHeader name signature :: rest ∧
      lastClass? front = some descriptor ∧
      m = ⟨String.ofList (classNameChars descriptor), String.ofList name, String.ofList signature⟩

namespace Scope

variable {scope : Scope} {statements : List Statement} {op : Operation} {m : Method}

lemma className_next (scope : Scope) (s : Statement) :
    (scope.next s).className =
      (s.classHeader?.map fun d => String.ofList (classNameChars d)).or scope.className := by
  cases s with
  | methodHeader name signature =>
    rw [next]
    cases hc : scope.className <;> simp [Statement.classHeader?, hc]
  | classHeader descriptor => rfl
  | endMethod => rfl
  | call descriptor name signature => rfl
  | loadString register literal => rfl

lemma lastClass?_concat (front : List Statement) (s : Statement) :
    lastClass? (front ++ [s]) = s.classHeader?.or (lastClass? front) := by
  rw [lastClass?, List.reverse_append, List.reverse_singleton, List.singleton_append,
    List.findSome?_cons, lastClass?]
  cases s.classHeader? <;> rfl

lemma className_foldl_next (front : List Statement) :
    (front.foldl next {}).className =
      (lastClass? front).map fun d => String.ofList (classNameChars d) := by
  induction front using List.reverseRecOn with
  | nil => rfl
  | append_singleton front s ih =>
    rw [List.foldl_append, List.foldl_cons, List.foldl_nil, className_next, ih, lastClass?_concat]
    cases s.classHeader? <;> rfl

lemma of_method_next {s : Statement} (h : (scope.next s).method = some m) :
    scope.operation? s = some (.declare m) ∨ scope.method = some m := by
  cases s with
  | methodHeader name signature =>
    cases hc : scope.className with
    | none => exact .inr (by simpa [next, hc] using h)
    | some className => exact .inl (by simpa [next, operation?, hc] using h)
  | classHeader descriptor => exact .inr h
  | endMethod => cases h
  | call descriptor name signature => exact .inr h
  | loadString register literal => exact .inr h

lemma declare_mem_of_method (h : (statements.foldl next {}).method = some m) :
    .declare m ∈ operations {} statements := by
  induction statements using List.reverseRecOn with
  | nil => cases h
  | append_singleton front s ih =>
    rw [List.foldl_append] at h
    rw [operations_append, List.mem_append]
    rcases of_method_next h with hd | hm
    · exact .inr (by simp [operations, hd])
    · exact .inl (ih hm)

lemma mem_operations_iff :
    op ∈ scope.operations statements ↔ ∃ front s rest, statements = front ++ s :: rest ∧
      (front.foldl next scope).operation? s = some op := by
  induction statements generalizing scope with
  | nil => simp [operations]
  | cons s statements ih =>
    rw [operations, List.mem_append, Option.mem_toList, ih]
    constructor
    · rintro (h | ⟨front, t, rest, rfl, h⟩)
      · exact ⟨[], s, statements, rfl, h⟩
      · exact ⟨s :: front, t, rest, rfl, h⟩
    · rintro ⟨front, t, rest, he, h⟩
      cases front with
      | nil =>
        obtain ⟨rfl, rfl⟩ := List.cons.inj he
        exact .inl h
      | cons u front =>
        obtain ⟨rfl, rfl⟩ := List.cons.inj he
        exact .inr ⟨front, t, rest, rfl, h⟩

lemma of_operation?_actor {s : Statement} (h : scope.operation? s = some op)
    (ha : op.actor? = some m) : scope.method = some m := by
  cases s with
  | classHeader descriptor => cases h
  | endMethod => cases h
  | methodHeader name signature =>
    obtain ⟨className, -, rfl⟩ := Option.map_eq_some_iff.mp h
    cases ha
  | call descriptor name signature =>
    obtain ⟨caller, hm, rfl⟩ := Option.map_eq_some_iff.mp h
    rw [hm]
    exact ha
  | loadString register literal =>
    obtain ⟨reader, hm, rfl⟩ := Option.map_eq_some_iff.mp h
    rw [hm]
    exact ha

lemma declare_mem_of_actor (h : op ∈ operations {} statements) (ha : op.actor? = some m) :
    .declare m ∈ operations {} statements := by
  obtain ⟨front, s, rest, rfl, ho⟩ := mem_operations_iff.mp h
  rw [operations_append, List.mem_append]
  exact .inl (declare_mem_of_method (of_operation?_actor ho ha))

lemma operation?_eq_declare_iff {s : Statement} :
    scope.operation? s = some (.declare m) ↔ ∃ name signature className,
      s = .methodHeader name signature ∧ scope.className = some className ∧
        ⟨className, String.ofList name, String.ofList signature⟩ = m := by
  cases s with
  | methodHeader name signature => simp [operation?]
  | classHeader descriptor => simp [operation?]
  | endMethod => simp [operation?]
  | call descriptor name signature => simp [operation?]
  | loadString register literal => simp [operation?]

lemma declare_mem_iff : .declare m ∈ operations {} statements ↔ Declared statements m := by
  simp only [mem_operations_iff, operation?_eq_declare_iff, className_foldl_next,
    Option.map_eq_some_iff, Declared]
  constructor
  · rintro ⟨front, s, rest, rfl, name, signature, -, rfl, ⟨descriptor, hd, rfl⟩, rfl⟩
    exact ⟨front, name, signature, rest, descriptor, rfl, hd, rfl⟩
  · rintro ⟨front, name, signature, rest, descriptor, rfl, hd, rfl⟩
    exact ⟨front, _, rest, rfl, name, signature, _, rfl, ⟨descriptor, hd, rfl⟩, rfl⟩

end Scope

lemma Declared.exists_header {source : String} {m : Method} (h : Declared (statements source) m) :
    ∃ line ∈ lines source.toList, ∃ path,
      IsHeaderOf path line ∧ m.className = className (String.ofList ('L' :: path ++ [';'])) := by
  obtain ⟨front, name, signature, rest, descriptor, hs, hd, rfl⟩ := h
  have hm : .classHeader descriptor ∈ statements source := by
    obtain ⟨s, hsm, hsd⟩ := List.exists_of_findSome?_eq_some hd
    have he : s = .classHeader descriptor := by
      cases s <;> simp_all [Statement.classHeader?]
    rw [hs, ← he]
    exact List.mem_append_left _ (List.mem_reverse.mp hsm)
  obtain ⟨line, hl, path, rfl, hp⟩ := of_mem_statements hm
  exact ⟨line, hl, path, hp, by rw [className, String.toList_ofList]⟩

end Scopes

end Smali

namespace CodeIndex

def Declares (index : CodeIndex) (m : Method) : Prop :=
  ∃ e ∈ index.methods, e.method = m ∧ e.declared = true

lemma Reflects.declares_iff {log : List Operation} {index : CodeIndex} (h : Reflects log index)
    {m : Method} : index.Declares m ↔ .declare m ∈ log := by
  rw [Declares, h.exists_entry_iff, mem_mentionedIn]
  simp only [entryIn, decide_eq_true_eq]
  exact and_iff_right_of_imp .inl

/-- All that calls or reads is declared, and what is declared has its header behind the header of
its class, in one of the sources. -/
structure Grounded (sources : List String) (index : CodeIndex) : Prop where
  calling : ∀ e ∈ index.methods, e.callees ≠ [] → e.declared = true
  callers : ∀ e ∈ index.methods, ∀ m ∈ e.callers, index.Declares m
  readers : ∀ e ∈ index.strings, ∀ read ∈ e.reads, index.Declares read.reader
  classes : ∀ m, index.Declares m → ∃ source ∈ sources, ∃ line ∈ lines source.toList, ∃ path,
    Smali.IsHeaderOf path line ∧
      m.className = Smali.className (String.ofList ('L' :: path ++ [';']))
  declares_iff : ∀ m, index.Declares m ↔
    ∃ source ∈ sources, Smali.Declared (Smali.statements source) m

section Sources

variable {sources : List String}

lemma declares_ofSources_iff {m : Method} :
    (ofSources sources).Declares m ↔
      ∃ source ∈ sources, Smali.Declared (Smali.statements source) m := by
  rw [(reflects_ofSources sources).declares_iff, List.mem_flatMap]
  simp only [Smali.operations, Smali.Scope.declare_mem_iff]

lemma declares_of_actor {op : Operation} {m : Method} (h : op ∈ sources.flatMap Smali.operations)
    (ha : op.actor? = some m) : (ofSources sources).Declares m := by
  obtain ⟨source, hs, ho⟩ := List.mem_flatMap.mp h
  rw [(reflects_ofSources sources).declares_iff, List.mem_flatMap]
  exact ⟨source, hs, Smali.Scope.declare_mem_of_actor ho ha⟩

end Sources

theorem grounded_ofSources (sources : List String) : Grounded sources (ofSources sources) := by
  have hr := reflects_ofSources sources
  refine ⟨fun e he hn => ?_, fun e he m hm => ?_, fun e he read hm => ?_, fun m hm => ?_,
    fun m => ?_⟩
  · obtain ⟨b, hb⟩ := List.exists_mem_of_ne_nil _ hn
    have hc := (hr.mem_callees e.method b).mp ⟨e, he, rfl, hb⟩
    obtain ⟨e', he', hm, hd⟩ := declares_of_actor hc rfl
    have hsame : e' = e := by
      rw [(hr.mem_methods.mp he').2, (hr.mem_methods.mp he).2, hm]
    rw [← hsame]
    exact hd
  · exact declares_of_actor ((hr.mem_callers m e.method).mp ⟨e, he, rfl, hm⟩) rfl
  · rw [hr.strings.entries_eq] at he
    obtain ⟨value, -, rfl⟩ := List.mem_map.mp he
    exact declares_of_actor (mem_reads_stringIn.mp hm) rfl
  · obtain ⟨source, hs, hd⟩ := declares_ofSources_iff.mp hm
    exact ⟨source, hs, hd.exists_header⟩
  · exact declares_ofSources_iff

end CodeIndex

end ApkAudit
