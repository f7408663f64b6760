import ApkAudit.Proofs.Code.Reference

/-! An operation that a log holds already leaves the index as it is, and the order of a log decides
nothing but the order of what the index lists. -/

namespace ApkAudit.CodeIndex

section Known

lemma Tabled.modify_eq_self {κ ε : Type} [DecidableEq κ] [Hashable κ] {fresh : κ → ε}
    {keys : List κ} {content : κ → ε} {entries : List ε} {positions : Std.HashMap κ Nat}
    (h : Tabled fresh keys content entries positions) {key : κ} {position : Nat}
    (hp : positions[key]? = some position) {f : ε → ε} (hf : f (content key) = content key) :
    entries.modify position f = entries := by
  have hm := (h.modify hp f).entries_eq
  rw [hf, Function.update_eq_self] at hm
  exact hm.trans h.entries_eq.symm

lemma Tabled.updateMethod_eq_self {index : CodeIndex} {keys : List Method}
    {content : Method → MethodEntry}
    (h : Tabled (fun m => { method := m }) keys content index.methods index.methodPositions)
    {m : Method} (hm : m ∈ keys) {f : MethodEntry → MethodEntry} (hf : f (content m) = content m) :
    index.updateMethod m f = index := by
  obtain ⟨position, hk⟩ := List.getElem?_of_mem hm
  have hp := (h.position_iff m position).mpr hk
  have hplace : index.place m = (position, index) := by simp only [place, hp]
  simp only [CodeIndex.updateMethod, hplace, h.modify_eq_self hp hf]

lemma Tabled.addRead_eq_self {index : CodeIndex} {keys : List String}
    {content : String → StringEntry}
    (h : Tabled (fun v => { value := v }) keys content index.strings index.stringPositions)
    {value : String} (hv : value ∈ keys) {reader : Method} {register : String}
    (hr : ⟨reader, register⟩ ∈ (content value).reads) :
    index.addRead value reader register = index := by
  obtain ⟨position, hk⟩ := List.getElem?_of_mem hv
  have hp := (h.position_iff value position).mpr hk
  have hf : { content value with reads := addNew ⟨reader, register⟩ (content value).reads } =
      content value := by
    rw [addNew_of_mem hr]
  have hm := h.modify_eq_self hp
    (f := fun e => { e with reads := addNew ⟨reader, register⟩ e.reads }) hf
  simp only [CodeIndex.addRead, hp, hm]

variable {log : List Operation} {index : CodeIndex}

lemma mem_reads_stringIn {value : String} {reader : Method} {register : String} :
    ⟨reader, register⟩ ∈ (stringIn log value).reads ↔ .read value reader register ∈ log := by
  simp only [stringIn, List.mem_eraseDups, List.mem_filterMap]
  constructor
  · rintro ⟨op, hop, hr⟩
    cases op with
    | declare m => cases hr
    | call a b => cases hr
    | read v r g =>
      simp only [Operation.readOf?, Option.ite_none_right_eq_some, Option.some.injEq,
        StringRead.mk.injEq] at hr
      obtain ⟨rfl, rfl, rfl⟩ := hr
      exact hop
  · intro hop
    exact ⟨_, hop, by simp [Operation.readOf?]⟩

lemma Reflects.apply_of_mem (h : Reflects log index) {op : Operation} (hop : op ∈ log) :
    index.apply op = index := by
  cases op with
  | declare m =>
    have hm : m ∈ mentionedIn log := (mem_mentionedIn log).mpr (.inl hop)
    have hf : { entryIn log m with declared := true } = entryIn log m := by
      simp [entryIn, hop]
    exact h.methods.updateMethod_eq_self hm hf
  | call a b =>
    have ha : a ∈ mentionedIn log := (mem_mentionedIn log).mpr (.inr ⟨b, .inl hop⟩)
    have hb : b ∈ mentionedIn log := (mem_mentionedIn log).mpr (.inr ⟨a, .inr hop⟩)
    have hcallees : { entryIn log a with callees := addNew b (entryIn log a).callees } =
        entryIn log a := by
      rw [addNew_of_mem ((mem_callees_entryIn log).mpr hop)]
    have hcallers : { entryIn log b with callers := addNew a (entryIn log b).callers } =
        entryIn log b := by
      rw [addNew_of_mem ((mem_callers_entryIn log).mpr hop)]
    -- the first update changes nothing, so the second one starts from the same index
    have hcaller := h.methods.updateMethod_eq_self ha
      (f := fun e => { e with callees := addNew b e.callees }) hcallees
    have hcallee := h.methods.updateMethod_eq_self hb
      (f := fun e => { e with callers := addNew a e.callers }) hcallers
    simp only [CodeIndex.apply, addCall, hcaller, hcallee]
  | read value reader register =>
    have hr := mem_reads_stringIn.mpr hop
    have hv : value ∈ loadedIn log := by
      rw [loadedIn, List.mem_eraseDups]
      exact List.mem_filterMap.mpr ⟨_, hop, rfl⟩
    exact h.strings.addRead_eq_self hv hr

lemma Reflects.foldl_apply_of_subset (h : Reflects log index) {ops : List Operation}
    (hops : ops ⊆ log) : ops.foldl CodeIndex.apply index = index := by
  induction ops with
  | nil => rfl
  | cons op ops ih =>
    obtain ⟨hop, hrest⟩ := List.cons_subset.mp hops
    rw [List.foldl_cons, h.apply_of_mem hop]
    exact ih hrest

end Known

structure SameFacts (e e' : MethodEntry) : Prop where
  method : e.method = e'.method
  declared : e.declared = e'.declared
  callers : e.callers.Perm e'.callers
  callees : e.callees.Perm e'.callees

structure SameContent (index index' : CodeIndex) : Prop where
  methods : (index.methods.map MethodEntry.method).Perm (index'.methods.map MethodEntry.method)
  entries : ∀ m, Option.Rel SameFacts (index.entry? m) (index'.entry? m)
  callees : ∀ m, (index.calleesOf m).Perm (index'.calleesOf m)
  strings : (index.strings.map StringEntry.value).Perm (index'.strings.map StringEntry.value)
  reads : ∀ value, (index.readsOf value).Perm (index'.readsOf value)
  callSites : ∀ name, (index.callSitesTo name).Perm (index'.callSitesTo name)

section Order

variable {log log' : List Operation}

lemma perm_eraseDups {α : Type} [DecidableEq α] {items items' : List α}
    (h : ∀ a, a ∈ items ↔ a ∈ items') : items.eraseDups.Perm items'.eraseDups := by
  rw [List.perm_ext_iff_of_nodup (nodup_eraseDups items) (nodup_eraseDups items')]
  intro a
  rw [List.mem_eraseDups, List.mem_eraseDups, h a]

lemma perm_distinct {α : Type} [DecidableEq α] (h : ∀ op, op ∈ log ↔ op ∈ log')
    (f : Operation → Option α) :
    (log.filterMap f).eraseDups.Perm (log'.filterMap f).eraseDups := by
  apply perm_eraseDups
  intro a
  simp only [List.mem_filterMap, h]

lemma perm_mentionedIn (h : ∀ op, op ∈ log ↔ op ∈ log') :
    (mentionedIn log).Perm (mentionedIn log') := by
  apply perm_eraseDups
  intro m
  simp only [List.mem_flatMap, h]

lemma sameFacts_entryIn (h : ∀ op, op ∈ log ↔ op ∈ log') (m : Method) :
    SameFacts (entryIn log m) (entryIn log' m) where
  method := rfl
  declared := decide_eq_decide.mpr (h _)
  callers := perm_distinct h _
  callees := perm_distinct h _

variable {index index' : CodeIndex}

lemma Reflects.entry?_eq (h : Reflects log index) (m : Method) :
    index.entry? m = if m ∈ mentionedIn log then some (entryIn log m) else none :=
  h.methods.entry_eq m

lemma Reflects.calleesOf_eq_entryIn (h : Reflects log index) (m : Method) :
    index.calleesOf m = (entryIn log m).callees := by
  rw [calleesOf, h.entry?_eq]
  by_cases hm : m ∈ mentionedIn log
  · rw [if_pos hm]
  · -- a method that is not mentioned calls nothing
    rw [if_neg hm, h.methods.content_fresh m hm]

lemma Reflects.readsOf_eq_stringIn (h : Reflects log index) (value : String) :
    index.readsOf value = (stringIn log value).reads := by
  rw [readsOf, h.strings.entry_eq]
  by_cases hv : value ∈ loadedIn log
  · rw [if_pos hv]
  · -- a string that is not loaded has no reads
    rw [if_neg hv, h.strings.content_fresh value hv]

/-- Logs of the same operations give the same content, however often and in whatever order the
operations stand in them. -/
lemma Reflects.sameContent (h : Reflects log index) (h' : Reflects log' index')
    (hlog : ∀ op, op ∈ log ↔ op ∈ log') : SameContent index index' where
  methods := by
    rw [h.keys_methods, h'.keys_methods]
    exact perm_mentionedIn hlog
  entries m := by
    have hm := (perm_mentionedIn hlog).mem_iff (a := m)
    rw [h.entry?_eq, h'.entry?_eq]
    by_cases hk : m ∈ mentionedIn log
    · rw [if_pos hk, if_pos (hm.mp hk)]
      exact .some (sameFacts_entryIn hlog m)
    · rw [if_neg hk, if_neg fun hk' => hk (hm.mpr hk')]
      exact .none
  callees m := by
    rw [h.calleesOf_eq_entryIn, h'.calleesOf_eq_entryIn]
    exact (sameFacts_entryIn hlog m).callees
  strings := by
    rw [h.keys_strings, h'.keys_strings]
    exact perm_distinct hlog _
  reads value := by
    rw [h.readsOf_eq_stringIn, h'.readsOf_eq_stringIn]
    exact perm_distinct hlog _
  callSites name := by
    rw [List.perm_ext_iff_of_nodup (h.nodup_callSitesTo name) (h'.nodup_callSitesTo name)]
    intro site
    rw [h.mem_callSitesTo, h'.mem_callSitesTo, hlog]

end Order

end ApkAudit.CodeIndex
