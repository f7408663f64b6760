import ApkAudit.Proofs.Code.Repetition
import ApkAudit.Smali.Source

/-! What a source does to an index is a list of operations that the source alone decides.  So a
source that is read again changes nothing, and the order of sources does not matter for what an
index holds. -/

namespace ApkAudit

namespace Smali

open CodeIndex (Operation)

structure Scope where
  className : Option String := none
  method : Option Method := none

namespace Scope

def next (scope : Scope) : Statement → Scope
  | .classHeader descriptor =>
    { scope with className := some (String.ofList (classNameChars descriptor)) }
  | .methodHeader name descriptor =>
    match scope.className with
    | none => scope
    | some className =>
      { scope with method := some ⟨className, String.ofList name, String.ofList descriptor⟩ }
  | .endMethod => { scope with method := none }
  | .call _ _ _ => scope
  | .loadString _ _ => scope

def operation? (scope : Scope) : Statement → Option Operation
  | .methodHeader name descriptor =>
    scope.className.map fun className =>
      .declare ⟨className, String.ofList name, String.ofList descriptor⟩
  | .call descriptor name signature =>
    scope.method.map fun caller =>
      .call caller
        ⟨String.ofList (classNameChars descriptor), String.ofList name, String.ofList signature⟩
  | .loadString register literal =>
    scope.method.map fun reader =>
      .read (String.ofList (unescape literal)) reader (String.ofList register)
  | .classHeader _ => none
  | .endMethod => none

def operations (scope : Scope) : List Statement → List Operation
  | [] => []
  | s :: rest => (scope.operation? s).toList ++ (scope.next s).operations rest

lemma operations_append (scope : Scope) (front rest : List Statement) :
    scope.operations (front ++ rest) =
      scope.operations front ++ (front.foldl next scope).operations rest := by
  induction front generalizing scope with
  | nil => rfl
  | cons s front ih =>
    rw [List.cons_append, operations, operations, ih, List.append_assoc, List.foldl_cons]

def after (source : String) : Scope :=
  (statements source).foldl next {}

end Scope

def openMethod : String :=
  ".class public LA;\n.method m()V"

lemma method_after_openMethod : (Scope.after openMethod).method = some ⟨"A", "m", "()V"⟩ := by
  decide +kernel

def operations (source : String) : List Operation :=
  Scope.operations {} (statements source)

def Cursor.scope (cursor : Cursor) : Scope :=
  ⟨cursor.className, cursor.method⟩

lemma Cursor.scope_step (cursor : Cursor) (s : Statement) :
    (cursor.step s).scope = cursor.scope.next s := by
  cases s with
  | classHeader descriptor => rfl
  | methodHeader name descriptor =>
    cases hc : cursor.className <;> simp [Cursor.step, Cursor.scope, Scope.next, hc]
  | endMethod => rfl
  | call descriptor name signature =>
    cases hm : cursor.method <;> simp [Cursor.step, Cursor.scope, Scope.next, hm]
  | loadString register literal =>
    cases hm : cursor.method <;> simp [Cursor.step, Cursor.scope, Scope.next, hm]

lemma Cursor.index_step (cursor : Cursor) (s : Statement) :
    (cursor.step s).index =
      (cursor.scope.operation? s).toList.foldl CodeIndex.apply cursor.index := by
  cases s with
  | classHeader descriptor => rfl
  | methodHeader name descriptor =>
    cases hc : cursor.className <;>
      simp [Cursor.step, Cursor.scope, Scope.operation?, hc, CodeIndex.apply]
  | endMethod => rfl
  | call descriptor name signature =>
    cases hm : cursor.method <;>
      simp [Cursor.step, Cursor.scope, Scope.operation?, hm, CodeIndex.apply]
  | loadString register literal =>
    cases hm : cursor.method <;>
      simp [Cursor.step, Cursor.scope, Scope.operation?, hm, CodeIndex.apply]

lemma Cursor.index_foldl_step (statements : List Statement) (cursor : Cursor) :
    (statements.foldl Cursor.step cursor).index =
      (cursor.scope.operations statements).foldl CodeIndex.apply cursor.index := by
  induction statements generalizing cursor with
  | nil => rfl
  | cons s rest ih =>
    rw [List.foldl_cons, ih, cursor.scope_step, cursor.index_step, Scope.operations,
      List.foldl_append]

end Smali

namespace CodeIndex

lemma addSource_eq (index : CodeIndex) (source : String) :
    index.addSource source = (Smali.operations source).foldl apply index :=
  Smali.Cursor.index_foldl_step (Smali.statements source) { index := index }

lemma addSource_ofLog (log : List Operation) (source : String) :
    (ofLog log).addSource source = ofLog (log ++ Smali.operations source) := by
  rw [addSource_eq, ofLog, ofLog, List.foldl_append]

def ofSources (sources : List String) : CodeIndex :=
  sources.foldl addSource empty

lemma foldl_addSource (sources : List String) (index : CodeIndex) :
    sources.foldl addSource index = (sources.flatMap Smali.operations).foldl apply index := by
  induction sources generalizing index with
  | nil => rfl
  | cons source sources ih =>
    rw [List.foldl_cons, ih, addSource_eq, List.flatMap_cons, List.foldl_append]

lemma ofSources_eq (sources : List String) :
    ofSources sources = ofLog (sources.flatMap Smali.operations) :=
  foldl_addSource sources empty

lemma reflects_ofSources (sources : List String) :
    Reflects (sources.flatMap Smali.operations) (ofSources sources) := by
  rw [ofSources_eq]
  exact reflects_ofLog _

lemma addSource_of_mem {sources : List String} {source : String} (h : source ∈ sources) :
    (ofSources sources).addSource source = ofSources sources := by
  rw [addSource_eq]
  apply (reflects_ofSources sources).foldl_apply_of_subset
  intro op hop
  exact List.mem_flatMap.mpr ⟨source, h, hop⟩

lemma sameContent_ofSources {sources sources' : List String}
    (h : ∀ source, source ∈ sources ↔ source ∈ sources') :
    SameContent (ofSources sources) (ofSources sources') := by
  apply (reflects_ofSources sources).sameContent (reflects_ofSources sources')
  intro op
  simp only [List.mem_flatMap, h]

/-- Each source adds operations of its own, whatever was read before it; a source that was read
already adds nothing; and sources in another order give the same content. -/
theorem sources_accumulate (sources : List String) :
    ofSources sources = ofLog (sources.flatMap Smali.operations) ∧
      (∀ source ∈ sources, (ofSources sources).addSource source = ofSources sources) ∧
      ∀ sources', sources.Perm sources' →
        SameContent (ofSources sources) (ofSources sources') := by
  refine ⟨ofSources_eq sources, fun source hs => addSource_of_mem hs, fun sources' hp => ?_⟩
  apply sameContent_ofSources
  intro source
  exact hp.mem_iff

def unended : String :=
  ".class public LA;\n.method m()V\nconst-string v0, \"s\"\ninvoke-static \x7b\x7d, LB;->n()V"

def astray : String :=
  "invoke-static \x7b\x7d, LC;->n()V\n.method k()V\ninvoke-static \x7b\x7d, LC;->n()V"

theorem sources_accumulate_astray :
    (ofSources [unended, astray, unended]).addSource astray =
        ofSources [unended, astray, unended] ∧
      SameContent (ofSources [unended, astray, unended]) (ofSources [astray, unended, unended]) :=
  ⟨(sources_accumulate [unended, astray, unended]).2.1 astray (by simp),
    (sources_accumulate [unended, astray, unended]).2.2 _ (.swap ..)⟩

end CodeIndex

end ApkAudit
