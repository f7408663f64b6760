import ApkAudit.Proofs.Code.PositionTable
import Mathlib.Data.List.Induction

/-! The index of a log of operations, read off the log: which methods and strings it lists, in which
order, and with which calls and reads. -/

namespace ApkAudit.CodeIndex

inductive Operation where
  | declare (m : Method)
  | call (caller callee : Method)
  | read (value : String) (reader : Method) (register : String)
deriving DecidableEq

def apply (index : CodeIndex) : Operation → CodeIndex
  | .declare m => index.declare m
  | .call caller callee => index.addCall caller callee
  | .read value reader register => index.addRead value reader register

def ofLog (log : List Operation) : CodeIndex :=
  log.foldl apply empty

namespace Operation

def methods : Operation → List Method
  | declare m => [m]
  | call caller callee => [caller, callee]
  | read _ _ _ => []

def callerOf? (m : Method) : Operation → Option Method
  | call caller callee => if callee = m then some caller else none
  | _ => none

def calleeOf? (m : Method) : Operation → Option Method
  | call caller callee => if caller = m then some callee else none
  | _ => none

def value? : Operation → Option String
  | read value _ _ => some value
  | _ => none

def readOf? (value : String) : Operation → Option StringRead
  | read v reader register => if v = value then some ⟨reader, register⟩ else none
  | _ => none

lemma callerOf?_eq_some_iff {m caller : Method} {op : Operation} :
    op.callerOf? m = some caller ↔ op = call caller m := by
  cases op <;> simp [callerOf?, and_comm]

lemma calleeOf?_eq_some_iff {m callee : Method} {op : Operation} :
    op.calleeOf? m = some callee ↔ op = call m callee := by
  cases op <;> simp [calleeOf?]

end Operation

def mentionedIn (log : List Operation) : List Method :=
  (log.flatMap Operation.methods).eraseDups

def entryIn (log : List Operation) (m : Method) : MethodEntry where
  method := m
  declared := .declare m ∈ log
  callers := (log.filterMap (Operation.callerOf? m)).eraseDups
  callees := (log.filterMap (Operation.calleeOf? m)).eraseDups

def loadedIn (log : List Operation) : List String :=
  (log.filterMap Operation.value?).eraseDups

def stringIn (log : List Operation) (value : String) : StringEntry where
  value := value
  reads := (log.filterMap (Operation.readOf? value)).eraseDups

section Distinct

variable {α : Type} [DecidableEq α]

lemma eraseDups_concat (items : List α) (item : α) :
    (items ++ [item]).eraseDups = addNew item items.eraseDups := by
  rw [List.eraseDups_append, addNew]
  by_cases h : item ∈ items
  · simp [List.removeAll, h]
  · simp [List.removeAll, h, List.eraseDups_cons]

lemma nodup_eraseDups (items : List α) : items.eraseDups.Nodup := by
  induction items using List.reverseRecOn with
  | nil => exact List.nodup_nil
  | append_singleton items item ih =>
    rw [eraseDups_concat, addNew]
    split
    · exact ih
    · next h => exact List.nodup_append_comm.mp (List.nodup_cons.mpr ⟨h, ih⟩)

lemma distinct_of_none {β : Type} {f : β → Option α} {b : β} (h : f b = none) (items : List β) :
    ((items ++ [b]).filterMap f).eraseDups = (items.filterMap f).eraseDups := by
  simp [List.filterMap_append, h]

lemma distinct_of_some {β : Type} {f : β → Option α} {b : β} {a : α} (h : f b = some a)
    (items : List β) :
    ((items ++ [b]).filterMap f).eraseDups = addNew a (items.filterMap f).eraseDups := by
  simp [List.filterMap_append, h, eraseDups_concat]

lemma addNew_of_mem {item : α} {items : List α} (h : item ∈ items) : addNew item items = items :=
  if_pos h

lemma addNew_of_not_mem {item : α} {items : List α} (h : item ∉ items) :
    addNew item items = items ++ [item] :=
  if_neg h

end Distinct

lemma Tabled.updateMethod {index : CodeIndex} {keys : List Method} {content : Method → MethodEntry}
    (h : Tabled (fun m => { method := m }) keys content index.methods index.methodPositions)
    (m : Method) (f : MethodEntry → MethodEntry) :
    Tabled (fun m => { method := m }) (addNew m keys) (Function.update content m (f (content m)))
      (index.updateMethod m f).methods (index.updateMethod m f).methodPositions := by
  unfold CodeIndex.updateMethod place
  cases hp : index.methodPositions[m]? with
  | some position =>
    have hm : m ∈ keys := by
      by_contra hm
      rw [h.position_eq_none_iff.mpr hm] at hp
      cases hp
    rw [addNew_of_mem hm]
    exact h.modify hp f
  | none =>
    -- a fresh entry is put at the end, and changed there like any other
    have hm := h.position_eq_none_iff.mp hp
    have ha := (h.append hp { method := m }).modify Std.HashMap.getElem?_insert_self f
    rw [Function.update_self, Function.update_idem] at ha
    rw [addNew_of_not_mem hm, h.content_fresh m hm]
    exact ha

lemma Tabled.addRead {index : CodeIndex} {keys : List String} {content : String → StringEntry}
    (h : Tabled (fun v => { value := v }) keys content index.strings index.stringPositions)
    (value : String) (reader : Method) (register : String) :
    Tabled (fun v => { value := v }) (addNew value keys)
      (Function.update content value
        { content value with reads := addNew ⟨reader, register⟩ (content value).reads })
      (index.addRead value reader register).strings
      (index.addRead value reader register).stringPositions := by
  unfold CodeIndex.addRead
  cases hp : index.stringPositions[value]? with
  | some position =>
    have hm : value ∈ keys := by
      by_contra hm
      rw [h.position_eq_none_iff.mpr hm] at hp
      cases hp
    rw [addNew_of_mem hm]
    exact h.modify hp fun e => { e with reads := addNew ⟨reader, register⟩ e.reads }
  | none =>
    have hm := h.position_eq_none_iff.mp hp
    have ha := h.append hp { value := value, reads := [⟨reader, register⟩] }
    rw [addNew_of_not_mem hm, h.content_fresh value hm]
    exact ha

structure Reflects (log : List Operation) (index : CodeIndex) : Prop where
  methods : Tabled (fun m => { method := m }) (mentionedIn log) (entryIn log) index.methods
    index.methodPositions
  strings : Tabled (fun v => { value := v }) (loadedIn log) (stringIn log) index.strings
    index.stringPositions

lemma reflects_nil : Reflects [] empty :=
  ⟨Tabled.nil _, Tabled.nil _⟩

section Steps

variable (log : List Operation)

lemma mentionedIn_declare (m : Method) :
    mentionedIn (log ++ [.declare m]) = addNew m (mentionedIn log) := by
  simp [mentionedIn, Operation.methods, eraseDups_concat]

lemma mentionedIn_call (a b : Method) :
    mentionedIn (log ++ [.call a b]) = addNew b (addNew a (mentionedIn log)) := by
  have hm : (log ++ [Operation.call a b]).flatMap Operation.methods =
      (log.flatMap Operation.methods ++ [a]) ++ [b] := by
    simp [Operation.methods]
  rw [mentionedIn, hm, eraseDups_concat, eraseDups_concat, mentionedIn]

lemma mentionedIn_read (value : String) (reader : Method) (register : String) :
    mentionedIn (log ++ [.read value reader register]) = mentionedIn log := by
  simp [mentionedIn, Operation.methods]

lemma entryIn_declare (m : Method) :
    entryIn (log ++ [.declare m]) =
      Function.update (entryIn log) m { entryIn log m with declared := true } := by
  funext n
  rw [entryIn, distinct_of_none (rfl : Operation.callerOf? n (.declare m) = none),
    distinct_of_none (rfl : Operation.calleeOf? n (.declare m) = none)]
  by_cases hn : n = m
  · subst hn
    simp [entryIn]
  · simp [entryIn, hn]

lemma entryIn_call (a b : Method) :
    entryIn (log ++ [.call a b]) =
      let called := Function.update (entryIn log) a
        { entryIn log a with callees := addNew b (entryIn log a).callees }
      Function.update called b { called b with callers := addNew a (called b).callers } := by
  funext n
  have hcallers : ((log ++ [Operation.call a b]).filterMap (Operation.callerOf? n)).eraseDups =
      if b = n then addNew a (entryIn log n).callers else (entryIn log n).callers := by
    split
    · next hn => exact distinct_of_some (by simp [Operation.callerOf?, hn]) log
    · next hn => exact distinct_of_none (by simp [Operation.callerOf?, hn]) log
  have hcallees : ((log ++ [Operation.call a b]).filterMap (Operation.calleeOf? n)).eraseDups =
      if a = n then addNew b (entryIn log n).callees else (entryIn log n).callees := by
    split
    · next hn => exact distinct_of_some (by simp [Operation.calleeOf?, hn]) log
    · next hn => exact distinct_of_none (by simp [Operation.calleeOf?, hn]) log
  rw [entryIn, hcallers, hcallees]
  -- a method that calls itself has both of its lists extended
  by_cases hb : n = b <;> by_cases ha : n = a
  · subst hb
    subst ha
    simp [entryIn]
  · subst hb
    simp [entryIn, ha, Ne.symm ha]
  · subst ha
    simp [entryIn, hb, Ne.symm hb]
  · simp [entryIn, ha, hb, Ne.symm ha, Ne.symm hb]

lemma entryIn_read (value : String) (reader : Method) (register : String) :
    entryIn (log ++ [.read value reader register]) = entryIn log := by
  funext n
  rw [entryIn, distinct_of_none (rfl : Operation.callerOf? n (.read value reader register) = none),
    distinct_of_none (rfl : Operation.calleeOf? n (.read value reader register) = none)]
  simp [entryIn]

lemma loadedIn_of_none {op : Operation} (h : op.value? = none) :
    loadedIn (log ++ [op]) = loadedIn log :=
  distinct_of_none h log

lemma stringIn_of_none {op : Operation} (h : op.value? = none) :
    stringIn (log ++ [op]) = stringIn log := by
  funext value
  have hr : op.readOf? value = none := by
    cases op with
    | declare m => rfl
    | call a b => rfl
    | read v reader register => cases h
  rw [stringIn, distinct_of_none hr, stringIn]

lemma loadedIn_read (value : String) (reader : Method) (register : String) :
    loadedIn (log ++ [.read value reader register]) = addNew value (loadedIn log) := by
  have hv : Operation.value? (.read value reader register) = some value := rfl
  exact distinct_of_some hv log

lemma stringIn_read (value : String) (reader : Method) (register : String) :
    stringIn (log ++ [.read value reader register]) =
      Function.update (stringIn log) value { stringIn log value with
        reads := addNew ⟨reader, register⟩ (stringIn log value).reads } := by
  funext v
  by_cases hv : v = value
  · subst hv
    rw [Function.update_self, stringIn, distinct_of_some (by simp [Operation.readOf?]; rfl)]
    rfl
  · rw [Function.update_of_ne hv, stringIn,
      distinct_of_none (by simp [Operation.readOf?, Ne.symm hv]), stringIn]

end Steps

@[simp] lemma strings_updateMethod (index : CodeIndex) (m : Method)
    (f : MethodEntry → MethodEntry) :
    (index.updateMethod m f).strings = index.strings := by
  cases h : index.methodPositions[m]? <;> simp [updateMethod, place, h]

@[simp] lemma stringPositions_updateMethod (index : CodeIndex) (m : Method)
    (f : MethodEntry → MethodEntry) :
    (index.updateMethod m f).stringPositions = index.stringPositions := by
  cases h : index.methodPositions[m]? <;> simp [updateMethod, place, h]

@[simp] lemma methods_addRead (index : CodeIndex) (value : String) (reader : Method)
    (register : String) : (index.addRead value reader register).methods = index.methods := by
  unfold addRead
  split <;> rfl

@[simp] lemma methodPositions_addRead (index : CodeIndex) (value : String) (reader : Method)
    (register : String) :
    (index.addRead value reader register).methodPositions = index.methodPositions := by
  unfold addRead
  split <;> rfl

lemma Reflects.apply {log : List Operation} {index : CodeIndex} (h : Reflects log index)
    (op : Operation) : Reflects (log ++ [op]) (index.apply op) := by
  cases op with
  | declare m =>
    refine ⟨?_, ?_⟩
    · rw [mentionedIn_declare, entryIn_declare]
      exact h.methods.updateMethod m fun e => { e with declared := true }
    · rw [loadedIn_of_none log rfl, stringIn_of_none log rfl]
      simpa [CodeIndex.apply, declare] using h.strings
  | call a b =>
    refine ⟨?_, ?_⟩
    · rw [mentionedIn_call, entryIn_call]
      have ha := h.methods.updateMethod a fun e => { e with callees := addNew b e.callees }
      exact ha.updateMethod b fun e => { e with callers := addNew a e.callers }
    · rw [loadedIn_of_none log rfl, stringIn_of_none log rfl]
      simpa [CodeIndex.apply, addCall] using h.strings
  | read value reader register =>
    refine ⟨?_, ?_⟩
    · rw [mentionedIn_read, entryIn_read]
      simpa [CodeIndex.apply] using h.methods
    · rw [loadedIn_read, stringIn_read]
      exact h.strings.addRead value reader register

lemma reflects_ofLog (log : List Operation) : Reflects log (ofLog log) := by
  induction log using List.reverseRecOn with
  | nil => exact reflects_nil
  | append_singleton log op ih =>
    rw [ofLog, List.foldl_append]
    exact ih.apply op

section Log

variable (log : List Operation)

lemma mem_mentionedIn {m : Method} :
    m ∈ mentionedIn log ↔
      .declare m ∈ log ∨ ∃ other, .call m other ∈ log ∨ .call other m ∈ log := by
  rw [mentionedIn, List.mem_eraseDups, List.mem_flatMap]
  constructor
  · rintro ⟨op, hop, hm⟩
    cases op with
    | declare n =>
      obtain rfl := List.mem_singleton.mp hm
      exact .inl hop
    | call a b =>
      rcases List.mem_pair.mp hm with rfl | rfl
      · exact .inr ⟨b, .inl hop⟩
      · exact .inr ⟨a, .inr hop⟩
    | read value reader register => cases hm
  · rintro (hd | ⟨other, hc | hc⟩)
    · exact ⟨_, hd, List.mem_singleton_self m⟩
    · exact ⟨_, hc, List.mem_pair.mpr (.inl rfl)⟩
    · exact ⟨_, hc, List.mem_pair.mpr (.inr rfl)⟩

lemma mem_callers_entryIn {a b : Method} : a ∈ (entryIn log b).callers ↔ .call a b ∈ log := by
  simp [entryIn, List.mem_filterMap, Operation.callerOf?_eq_some_iff]

lemma mem_callees_entryIn {a b : Method} : b ∈ (entryIn log a).callees ↔ .call a b ∈ log := by
  simp [entryIn, List.mem_filterMap, Operation.calleeOf?_eq_some_iff]

end Log

/-- The index is the one that a log of operations describes: its lists hold what the log mentions
in the order of first mention, and its look-ups find what a search through the lists finds. -/
structure IsIndexOf (log : List Operation) (index : CodeIndex) : Prop where
  methods_eq : index.methods = (mentionedIn log).map (entryIn log)
  strings_eq : index.strings = (loadedIn log).map (stringIn log)
  mem_methods : ∀ m, m ∈ index.methods.map MethodEntry.method ↔
    .declare m ∈ log ∨ ∃ other, .call m other ∈ log ∨ .call other m ∈ log
  nodup_methods : (index.methods.map MethodEntry.method).Nodup
  nodup_strings : (index.strings.map StringEntry.value).Nodup
  declared_iff : ∀ e ∈ index.methods, e.declared = true ↔ .declare e.method ∈ log
  mem_callers : ∀ a b, (∃ e ∈ index.methods, e.method = b ∧ a ∈ e.callers) ↔ .call a b ∈ log
  mem_callees : ∀ a b, (∃ e ∈ index.methods, e.method = a ∧ b ∈ e.callees) ↔ .call a b ∈ log
  callers_iff_callees : ∀ e ∈ index.methods, ∀ f ∈ index.methods,
    e.method ∈ f.callers ↔ f.method ∈ e.callees
  entry_eq : ∀ m, index.entry? m = index.methods.find? fun e => e.method = m
  callees_eq : ∀ m, index.calleesOf m =
    ((index.methods.find? fun e => e.method = m).map MethodEntry.callees).getD []
  reads_eq : ∀ value, index.readsOf value =
    ((index.strings.find? fun e => e.value = value).map StringEntry.reads).getD []
  method_position_lt : ∀ (m : Method) (position : Nat),
    index.methodPositions[m]? = some position → position < index.methods.length
  string_position_lt : ∀ (value : String) (position : Nat),
    index.stringPositions[value]? = some position → position < index.strings.length
  mem_callSites : ∀ name site, site ∈ index.callSitesTo name ↔
    site.callee.name = name ∧ .call site.caller site.callee ∈ log
  nodup_callSites : ∀ name, (index.callSitesTo name).Nodup

section Queries

variable {log : List Operation} {index : CodeIndex}

lemma Reflects.keys_methods (h : Reflects log index) :
    index.methods.map MethodEntry.method = mentionedIn log := by
  rw [h.methods.entries_eq, List.map_map]
  exact List.map_id _

lemma Reflects.keys_strings (h : Reflects log index) :
    index.strings.map StringEntry.value = loadedIn log := by
  rw [h.strings.entries_eq, List.map_map]
  exact List.map_id _

lemma Reflects.mem_methods (h : Reflects log index) {e : MethodEntry} :
    e ∈ index.methods ↔ e.method ∈ mentionedIn log ∧ e = entryIn log e.method := by
  rw [h.methods.entries_eq, List.mem_map]
  constructor
  · rintro ⟨m, hm, rfl⟩
    exact ⟨hm, rfl⟩
  · rintro ⟨hm, he⟩
    exact ⟨e.method, hm, he.symm⟩

lemma Reflects.exists_entry_iff (h : Reflects log index) {m : Method} {p : MethodEntry → Prop} :
    (∃ e ∈ index.methods, e.method = m ∧ p e) ↔ m ∈ mentionedIn log ∧ p (entryIn log m) := by
  constructor
  · rintro ⟨e, he, rfl, hp⟩
    obtain ⟨hm, heq⟩ := h.mem_methods.mp he
    exact ⟨hm, heq ▸ hp⟩
  · rintro ⟨hm, hp⟩
    exact ⟨entryIn log m, h.mem_methods.mpr ⟨hm, rfl⟩, rfl, hp⟩

lemma Reflects.mem_callers (h : Reflects log index) (a b : Method) :
    (∃ e ∈ index.methods, e.method = b ∧ a ∈ e.callers) ↔ .call a b ∈ log := by
  rw [h.exists_entry_iff, mem_callers_entryIn]
  exact and_iff_right_of_imp fun hc => (mem_mentionedIn log).mpr (.inr ⟨a, .inr hc⟩)

lemma Reflects.mem_callees (h : Reflects log index) (a b : Method) :
    (∃ e ∈ index.methods, e.method = a ∧ b ∈ e.callees) ↔ .call a b ∈ log := by
  rw [h.exists_entry_iff, mem_callees_entryIn]
  exact and_iff_right_of_imp fun hc => (mem_mentionedIn log).mpr (.inr ⟨b, .inl hc⟩)

lemma Reflects.entry_eq (h : Reflects log index) (m : Method) :
    index.entry? m = index.methods.find? fun e => e.method = m :=
  h.methods.entry_eq_find? (fun _ => rfl) m

lemma Reflects.calleesOf_eq (h : Reflects log index) (m : Method) :
    index.calleesOf m =
      ((index.methods.find? fun e => e.method = m).map MethodEntry.callees).getD [] := by
  rw [calleesOf, h.entry_eq]
  cases index.methods.find? _ <;> rfl

lemma Reflects.readsOf_eq (h : Reflects log index) (value : String) :
    index.readsOf value =
      ((index.strings.find? fun e => e.value = value).map StringEntry.reads).getD [] := by
  have hv : ∀ v, StringEntry.value (stringIn log v) = v := fun _ => rfl
  rw [readsOf, h.strings.entry_eq_find? hv]
  cases index.strings.find? _ <;> rfl

lemma Reflects.mem_callSitesTo (h : Reflects log index) (name : String) (site : CallSite) :
    site ∈ index.callSitesTo name ↔
      site.callee.name = name ∧ .call site.caller site.callee ∈ log := by
  rw [← h.mem_callers]
  simp only [callSitesTo, List.mem_flatMap, List.mem_filter, List.mem_map, decide_eq_true_eq]
  constructor
  · rintro ⟨e, ⟨he, hn⟩, caller, hc, rfl⟩
    exact ⟨hn, e, he, rfl, hc⟩
  · rintro ⟨hn, e, he, hm, hc⟩
    exact ⟨e, ⟨he, hm ▸ hn⟩, site.caller, hc, by rw [hm]⟩

lemma Reflects.nodup_callSitesTo (h : Reflects log index) (name : String) :
    (index.callSitesTo name).Nodup := by
  rw [callSitesTo, List.nodup_flatMap]
  constructor
  · intro e he
    have hc : e.callers.Nodup := by
      rw [(h.mem_methods.mp (List.mem_filter.mp he).1).2]
      exact nodup_eraseDups _
    refine hc.map fun a b hab => ?_
    exact congrArg CallSite.caller hab
  · -- sites of two entries differ in the method that is called
    have hp : index.methods.Pairwise fun e f => e.method ≠ f.method := by
      have hn := h.methods.nodup
      rw [← h.keys_methods] at hn
      exact List.pairwise_map.mp hn
    refine (hp.filter _).imp fun {e f} hne => ?_
    intro site he hf
    obtain ⟨a, -, rfl⟩ := List.mem_map.mp he
    obtain ⟨b, -, hb⟩ := List.mem_map.mp hf
    exact hne (congrArg CallSite.callee hb).symm

end Queries

theorem ofLog_isIndexOf (log : List Operation) : IsIndexOf log (ofLog log) := by
  have h := reflects_ofLog log
  exact {
    methods_eq := h.methods.entries_eq
    strings_eq := h.strings.entries_eq
    mem_methods := fun m => by rw [h.keys_methods]; exact mem_mentionedIn log
    nodup_methods := by rw [h.keys_methods]; exact nodup_eraseDups _
    nodup_strings := by rw [h.keys_strings]; exact nodup_eraseDups _
    declared_iff := fun e he => by rw [(h.mem_methods.mp he).2]; simp [entryIn]
    mem_callers := h.mem_callers
    mem_callees := h.mem_callees
    callers_iff_callees := fun e he f hf => by
      rw [(h.mem_methods.mp he).2, (h.mem_methods.mp hf).2]
      exact (mem_callers_entryIn log).trans (mem_callees_entryIn log).symm
    entry_eq := h.entry_eq
    callees_eq := h.calleesOf_eq
    reads_eq := h.readsOf_eq
    method_position_lt := fun _ _ => h.methods.position_lt
    string_position_lt := fun _ _ => h.strings.position_lt
    mem_callSites := h.mem_callSitesTo
    nodup_callSites := h.nodup_callSitesTo }

end ApkAudit.CodeIndex
