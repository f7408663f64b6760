import ApkAudit.Proofs.Smali.Grounding

/-! The methods that sources mention, as they write them, and the entries of the index that stand
for them.  Classes and arrays of classes keep their methods apart. -/

namespace ApkAudit

namespace Smali

open CodeIndex (Operation mentionedIn mem_mentionedIn)

structure Mention where
  classDescriptor : List Char
  name : List Char
  signature : List Char

namespace Mention

def method (x : Mention) : Method :=
  ⟨String.ofList (classNameChars x.classDescriptor), String.ofList x.name,
    String.ofList x.signature⟩

def OfClassType (x : Mention) : Prop :=
  ∃ (path : ClassPath) (dimensions : Nat), x.classDescriptor = path.descriptor dimensions

lemma eq_of_method_eq {x y : Mention} (hx : x.OfClassType) (hy : y.OfClassType)
    (h : x.method = y.method) : x = y := by
  obtain ⟨xd, xn, xs⟩ := x
  obtain ⟨yd, yn, ys⟩ := y
  obtain ⟨b, m, rfl⟩ := hx
  obtain ⟨c, n, rfl⟩ := hy
  simp only [method, Method.mk.injEq, String.ofList_inj] at h
  obtain ⟨hc, rfl, rfl⟩ := h
  obtain ⟨rfl, rfl⟩ := classNameChars_descriptor_inj hc
  rfl

end Mention

def HasHeader (source : String) (x : Mention) : Prop :=
  ∃ front rest, statements source = front ++ .methodHeader x.name x.signature :: rest ∧
    lastClass? front = some x.classDescriptor

def Calls (source : String) (caller : Method) (x : Mention) : Prop :=
  ∃ front rest, statements source = front ++ .call x.classDescriptor x.name x.signature :: rest ∧
    (front.foldl Scope.next {}).method = some caller

def Mentions (source : String) (x : Mention) : Prop :=
  HasHeader source x ∨ ∃ caller, Calls source caller x

section Operations

variable {source : String} {m caller : Method}

lemma declare_mem_operations :
    .declare m ∈ operations source ↔ ∃ x, HasHeader source x ∧ x.method = m := by
  rw [operations, Scope.declare_mem_iff]
  constructor
  · rintro ⟨front, name, signature, rest, classDescriptor, hs, hc, rfl⟩
    exact ⟨⟨classDescriptor, name, signature⟩, ⟨front, rest, hs, hc⟩, rfl⟩
  · rintro ⟨x, ⟨front, rest, hs, hc⟩, rfl⟩
    exact ⟨front, x.name, x.signature, rest, x.classDescriptor, hs, hc, rfl⟩

lemma Scope.operation?_eq_call_iff {scope : Scope} {s : Statement} :
    scope.operation? s = some (.call caller m) ↔ ∃ x : Mention,
      s = .call x.classDescriptor x.name x.signature ∧ scope.method = some caller ∧
        x.method = m := by
  constructor
  · intro h
    cases s with
    | call classDescriptor name signature =>
      obtain ⟨other, hm, hc⟩ := Option.map_eq_some_iff.mp h
      obtain ⟨rfl, rfl⟩ := Operation.call.inj hc
      exact ⟨⟨classDescriptor, name, signature⟩, rfl, hm, rfl⟩
    | methodHeader name signature => simp [operation?] at h
    | loadString register literal => simp [operation?] at h
    | classHeader descriptor => cases h
    | endMethod => cases h
  · rintro ⟨x, rfl, hm, rfl⟩
    rw [operation?, hm]
    rfl

lemma call_mem_operations :
    .call caller m ∈ operations source ↔ ∃ x, Calls source caller x ∧ x.method = m := by
  simp only [operations, Scope.mem_operations_iff, Scope.operation?_eq_call_iff]
  constructor
  · rintro ⟨front, s, rest, hs, x, rfl, hm, rfl⟩
    exact ⟨x, ⟨front, rest, hs, hm⟩, rfl⟩
  · rintro ⟨x, ⟨front, rest, hs, hm⟩, rfl⟩
    exact ⟨front, _, rest, hs, x, rfl, hm, rfl⟩

lemma mem_mentionedIn_operations :
    m ∈ mentionedIn (operations source) ↔ ∃ x, Mentions source x ∧ x.method = m := by
  rw [mem_mentionedIn]
  constructor
  · rintro (hd | ⟨other, hc | hc⟩)
    · obtain ⟨x, hx, rfl⟩ := declare_mem_operations.mp hd
      exact ⟨x, .inl hx, rfl⟩
    · -- a method that calls has a header too
      obtain ⟨x, hx, rfl⟩ := declare_mem_operations.mp (Scope.declare_mem_of_actor hc rfl)
      exact ⟨x, .inl hx, rfl⟩
    · obtain ⟨x, hx, rfl⟩ := call_mem_operations.mp hc
      exact ⟨x, .inr ⟨other, hx⟩, rfl⟩
  · rintro ⟨x, hx | ⟨other, hx⟩, rfl⟩
    · exact .inl (declare_mem_operations.mpr ⟨x, hx, rfl⟩)
    · exact .inr ⟨other, .inr (call_mem_operations.mpr ⟨x, hx, rfl⟩)⟩

end Operations

end Smali

namespace CodeIndex

open Smali (Mention Mentions Calls)

lemma mem_mentionedIn_flatMap {sources : List String} {m : Method} :
    m ∈ mentionedIn (sources.flatMap Smali.operations) ↔
      ∃ source ∈ sources, m ∈ mentionedIn (Smali.operations source) := by
  simp only [mentionedIn, List.mem_eraseDups, List.flatMap_assoc, List.mem_flatMap]

lemma Reflects.position_of_entry {log : List Operation} {index : CodeIndex} (h : Reflects log index)
    {i : Nat} {e : MethodEntry} (he : index.methods[i]? = some e) :
    index.methodPositions[e.method]? = some i := by
  rw [h.methods.position_iff, ← h.keys_methods, List.getElem?_map, he]
  rfl

/-- The entries stand for the methods that the sources mention and hold the calls of them.  Methods
of classes and of arrays of classes share an entry only if they are written the same. -/
structure KeepsApart (sources : List String) (index : CodeIndex) : Prop where
  mem_methods : ∀ m, m ∈ index.methods.map MethodEntry.method ↔
    ∃ source ∈ sources, ∃ x, Mentions source x ∧ x.method = m
  mem_callers : ∀ e ∈ index.methods, ∀ caller, caller ∈ e.callers ↔
    ∃ source ∈ sources, ∃ x, Calls source caller x ∧ x.method = e.method
  position_eq_iff : ∀ x y : Mention, x.OfClassType → y.OfClassType →
    ∀ (i j : Nat) (e f : MethodEntry), index.methods[i]? = some e → e.method = x.method →
      index.methods[j]? = some f → f.method = y.method → (i = j ↔ x = y)

lemma keepsApart_ofSources (sources : List String) : KeepsApart sources (ofSources sources) := by
  have hr := reflects_ofSources sources
  refine ⟨fun m => ?_, fun e he caller => ?_, fun x y hx hy i j e f he hex hf hfy => ⟨?_, ?_⟩⟩
  · rw [hr.keys_methods, mem_mentionedIn_flatMap]
    simp only [Smali.mem_mentionedIn_operations]
  · rw [(hr.mem_methods.mp he).2, mem_callers_entryIn, List.mem_flatMap]
    simp only [Smali.call_mem_operations]
    rfl
  · rintro rfl
    obtain rfl := Option.some.inj (he.symm.trans hf)
    exact Mention.eq_of_method_eq hx hy (hex.symm.trans hfy)
  · rintro rfl
    have hi := hr.position_of_entry he
    have hj := hr.position_of_entry hf
    rw [hex] at hi
    rw [hfy] at hj
    exact Option.some.inj (hi.symm.trans hj)

end CodeIndex

namespace Smali

/-- The slices of a descriptor fall between its characters, whatever it is, and give the class name;
different classes and arrays of classes have different names; and so the index keeps them apart. -/
theorem class_types_kept_apart :
    (∀ descriptor : String, classNameBySlices? descriptor = some (className descriptor)) ∧
      (∀ (m n : Nat) (b c : ClassPath),
        className (String.ofList (b.descriptor m)) = className (String.ofList (c.descriptor n)) →
          m = n ∧ b.chars = c.chars) ∧
      ∀ sources : List String, CodeIndex.KeepsApart sources (CodeIndex.ofSources sources) := by
  refine ⟨classNameBySlices?_eq, fun m n b c h => ?_, CodeIndex.keepsApart_ofSources⟩
  simp only [className, String.toList_ofList, String.ofList_inj] at h
  obtain ⟨hm, hb⟩ := classNameChars_descriptor_inj h
  exact ⟨hm, congrArg ClassPath.chars hb⟩

def accentedPath : ClassPath where
  chars := "L/Été".toList
  ne_nil := by decide
  dot_not_mem := by decide
  stop_not_mem := by decide
  bracket_not_mem := by decide

def callsOnBoth : String :=
  openMethod ++ "\ninvoke-static \x7b\x7d, LL/Été;->k()V" ++
    "\ninvoke-static \x7b\x7d, [LL/Été;->k()V"

def onClass : Mention :=
  ⟨accentedPath.descriptor 0, "k".toList, "()V".toList⟩

def onArray : Mention :=
  ⟨accentedPath.descriptor 1, "k".toList, "()V".toList⟩

lemma statements_callsOnBoth : statements callsOnBoth =
    [.classHeader "LA;".toList, .methodHeader "m".toList "()V".toList,
      .call onClass.classDescriptor onClass.name onClass.signature,
      .call onArray.classDescriptor onArray.name onArray.signature] := by
  decide +kernel

lemma mentions_onClass : Mentions callsOnBoth onClass :=
  .inr ⟨⟨"A", "m", "()V"⟩, _ :: _ :: [], _, statements_callsOnBoth, by decide +kernel⟩

lemma mentions_onArray : Mentions callsOnBoth onArray :=
  .inr ⟨⟨"A", "m", "()V"⟩, _ :: _ :: _ :: [], _, statements_callsOnBoth, by decide +kernel⟩

theorem class_types_kept_apart_accented :
    classNameBySlices? "[LL/Été;" = some "L.Été[]" ∧
      className (String.ofList (accentedPath.descriptor 0)) ≠
        className (String.ofList (accentedPath.descriptor 1)) ∧
      ∃ (i j : Nat) (e f : MethodEntry), (CodeIndex.ofSources [callsOnBoth]).methods[i]? = some e ∧
        (CodeIndex.ofSources [callsOnBoth]).methods[j]? = some f ∧
        e.method = onClass.method ∧ f.method = onArray.method ∧ i ≠ j := by
  obtain ⟨hslices, hnames, hindex⟩ := class_types_kept_apart
  have hindex := hindex [callsOnBoth]
  have hentry : ∀ x, Mentions callsOnBoth x → ∃ (i : Nat) (e : MethodEntry),
      (CodeIndex.ofSources [callsOnBoth]).methods[i]? = some e ∧ e.method = x.method := by
    intro x hx
    obtain ⟨e, he, hm⟩ := List.mem_map.mp
      ((hindex.mem_methods x.method).mpr ⟨callsOnBoth, List.mem_singleton_self _, x, hx, rfl⟩)
    obtain ⟨i, hi⟩ := List.getElem?_of_mem he
    exact ⟨i, e, hi, hm⟩
  obtain ⟨i, e, hi, he⟩ := hentry onClass mentions_onClass
  obtain ⟨j, f, hj, hf⟩ := hentry onArray mentions_onArray
  refine ⟨?_, ?_, i, j, e, f, hi, hj, he, hf, ?_⟩
  · rw [hslices]
    decide
  · intro h
    exact absurd (hnames 0 1 accentedPath accentedPath h).1 (by decide)
  · intro hij
    have hsame := (hindex.position_eq_iff onClass onArray ⟨accentedPath, 0, rfl⟩
      ⟨accentedPath, 1, rfl⟩ i j e f hi he hj hf).mp hij
    exact absurd (congrArg Mention.classDescriptor hsame) (by decide)

/-- An array of primitives is not told from the array of a class that has the letter as its name. -/
example : className "[I" = className "[LI;" := by
  decide

end Smali

end ApkAudit
