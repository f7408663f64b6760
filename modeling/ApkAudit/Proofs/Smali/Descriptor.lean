import ApkAudit.Proofs.Text.Scan
import ApkAudit.Smali.Descriptor

/-! Class names.  The name of a class type is cut out of its descriptor between characters, and the
type can be read back from it: each dimension leaves one opening bracket, and each separator of the
path one dot. -/

namespace ApkAudit

namespace Text

/-- The text between two offsets in bytes.  There is none if an offset lies outside of the text or
inside a character, or if the offsets are in the wrong order. -/
def slice? (text : String) (start stop : Nat) : Option String :=
  if h : (⟨start⟩ : String.Pos.Raw).IsValid text ∧ (⟨stop⟩ : String.Pos.Raw).IsValid text ∧
      start ≤ stop then
    some (String.extract (text.pos ⟨start⟩ h.1) (text.pos ⟨stop⟩ h.2.1))
  else none

lemma slice?_append (front part back : String) :
    slice? (front ++ part ++ back) front.utf8ByteSize (front ++ part).utf8ByteSize =
      some part := by
  have hstart : (⟨front.utf8ByteSize⟩ : String.Pos.Raw).IsValid (front ++ part ++ back) := by
    rw [String.Pos.Raw.isValid_iff_exists_append]
    exact ⟨front, part ++ back, String.append_assoc, rfl⟩
  have hstop : (⟨(front ++ part).utf8ByteSize⟩ : String.Pos.Raw).IsValid
      (front ++ part ++ back) := by
    rw [String.Pos.Raw.isValid_iff_exists_append]
    exact ⟨front ++ part, back, rfl, rfl⟩
  have hle : front.utf8ByteSize ≤ (front ++ part).utf8ByteSize := by simp
  rw [slice?, dif_pos ⟨hstart, hstop, hle⟩, Option.some.injEq, ← String.toByteArray_inj,
    String.toByteArray_extract]
  -- the bytes are those of the three parts, one after the other
  calc (front ++ part ++ back).toByteArray.extract front.utf8ByteSize (front ++ part).utf8ByteSize
    _ = (front.toByteArray ++ (part.toByteArray ++ back.toByteArray)).extract
          (front.toByteArray.size + 0) (front.toByteArray.size + part.toByteArray.size) := by
      rw [String.toByteArray_append, String.toByteArray_append, ByteArray.append_assoc,
        String.utf8ByteSize_append]
      rfl
    _ = (part.toByteArray ++ back.toByteArray).extract 0 part.toByteArray.size :=
      ByteArray.extract_append_size_add
    _ = part.toByteArray := by
      rw [ByteArray.extract_append_size_left, ByteArray.extract_zero_size]

end Text

namespace Smali

open Text

section Slices

/-- The class name as it is cut out of the bytes of a descriptor: the part behind the brackets, and
of that the part between an `L` and a semicolon. -/
def classNameBySlices? (descriptor : String) : Option String := do
  let dimensions := (descriptor.toList.takeWhile (· = '[')).length
  let element ← slice? descriptor dimensions descriptor.utf8ByteSize
  let name ←
    if element.toList.head? = some 'L' ∧ element.toList.getLast? = some ';' then
      (slice? element 1 (element.utf8ByteSize - 1)).map fun body => String.ofList (dots body.toList)
    else some element
  some (name ++ String.ofList (List.replicate dimensions ['[', ']']).flatten)

lemma utf8ByteSize_brackets (dimensions : Nat) :
    (String.ofList (List.replicate dimensions '[')).utf8ByteSize = dimensions := by
  induction dimensions with
  | zero => rfl
  | succ n ih =>
    rw [List.replicate_succ', String.ofList_append, String.utf8ByteSize_append, ih]
    rfl

lemma slice?_element (descriptor : String) :
    slice? descriptor (descriptor.toList.takeWhile (· = '[')).length descriptor.utf8ByteSize =
      some (String.ofList (descriptor.toList.dropWhile (· = '['))) := by
  obtain ⟨cs, rfl⟩ : ∃ cs, descriptor = String.ofList cs := ⟨_, String.ofList_toList.symm⟩
  have hfront : cs.takeWhile (· = '[') = List.replicate (cs.takeWhile (· = '[')).length '[' := by
    refine List.eq_replicate_iff.mpr ⟨rfl, fun c hc => ?_⟩
    simpa using List.mem_takeWhile_imp hc
  -- a bracket is one byte, so the number of brackets is the offset behind them
  have hsize := utf8ByteSize_brackets (cs.takeWhile (· = '[')).length
  rw [← hfront] at hsize
  have h := slice?_append (String.ofList (cs.takeWhile (· = '[')))
    (String.ofList (cs.dropWhile (· = '['))) ""
  rw [hsize, String.append_empty, ← String.ofList_append, List.takeWhile_append_dropWhile] at h
  rw [String.toList_ofList, h]

lemma slice?_body (body : List Char) :
    slice? (String.ofList ('L' :: body ++ [';'])) 1
        ((String.ofList ('L' :: body ++ [';'])).utf8ByteSize - 1) =
      some (String.ofList body) := by
  have hparts : String.ofList ('L' :: body ++ [';']) =
      String.ofList ['L'] ++ String.ofList body ++ String.ofList [';'] := by
    rw [← String.ofList_append, ← String.ofList_append]
    rfl
  have h := slice?_append (String.ofList ['L']) (String.ofList body) (String.ofList [';'])
  have hsize : (String.ofList ['L'] ++ String.ofList body ++ String.ofList [';']).utf8ByteSize - 1 =
      (String.ofList ['L'] ++ String.ofList body).utf8ByteSize := by
    rw [String.utf8ByteSize_append]
    rfl
  rw [hparts, hsize]
  exact h

lemma exists_body {element : List Char} (hh : element.head? = some 'L')
    (hl : element.getLast? = some ';') : ∃ body, element = 'L' :: body ++ [';'] := by
  obtain ⟨rest, rfl⟩ := List.head?_eq_some_iff.mp hh
  obtain ⟨body, hb⟩ := List.getLast?_eq_some_iff.mp hl
  cases body with
  | nil => cases hb
  | cons c body =>
    obtain ⟨rfl, rfl⟩ := List.cons.inj hb
    exact ⟨body, rfl⟩

lemma classNameBySlices?_eq (descriptor : String) :
    classNameBySlices? descriptor = some (className descriptor) := by
  simp only [classNameBySlices?, slice?_element, className, classNameChars, Option.bind_eq_bind,
    Option.bind_some, String.toList_ofList]
  split
  · next h =>
    obtain ⟨body, hb⟩ := exists_body h.1 h.2
    rw [hb, slice?_body]
    simp
  · simp

end Slices

section Names

lemma mem_dots {cs : List Char} {c : Char} (h : c ∈ dots cs) : c = '.' ∨ c ∈ cs ∧ c ≠ '/' := by
  obtain ⟨d, hd, rfl⟩ := List.mem_map.mp h
  split
  · exact .inl rfl
  · next hn => exact .inr ⟨hd, hn⟩

lemma brackets (dimensions : Nat) :
    ∀ c ∈ List.replicate dimensions '[', decide (c = '[') = true := by
  intro c hc
  simpa using (List.mem_replicate.mp hc).2

lemma classNameChars_brackets {c : Char} (hc : decide (c = '[') = false) (rest : List Char)
    (dimensions : Nat) :
    classNameChars (List.replicate dimensions '[' ++ c :: rest) =
      (if c = 'L' ∧ (c :: rest).getLast? = some ';' then dots rest.dropLast else c :: rest) ++
        (List.replicate dimensions ['[', ']']).flatten := by
  rw [classNameChars, takeWhile_stop (brackets dimensions) hc,
    dropWhile_stop (brackets dimensions) hc]
  simp

lemma classNameChars_object (path : List Char) (dimensions : Nat) :
    classNameChars (List.replicate dimensions '[' ++ 'L' :: path ++ [';']) =
      dots path ++ (List.replicate dimensions ['[', ']']).flatten := by
  have hlast : ('L' :: (path ++ [';'])).getLast? = some ';' := by
    rw [← List.cons_append, List.getLast?_concat]
  rw [List.append_assoc, List.cons_append, classNameChars_brackets rfl, if_pos ⟨rfl, hlast⟩,
    List.dropLast_concat]

lemma classNameChars_class (path : List Char) :
    classNameChars ('L' :: path ++ [';']) = dots path := by
  simpa using classNameChars_object path 0

@[ext]
structure ClassPath where
  chars : List Char
  ne_nil : chars ≠ []
  dot_not_mem : '.' ∉ chars
  stop_not_mem : ';' ∉ chars
  bracket_not_mem : '[' ∉ chars

def ClassPath.descriptor (path : ClassPath) (dimensions : Nat) : List Char :=
  List.replicate dimensions '[' ++ 'L' :: path.chars ++ [';']

def slashes (cs : List Char) : List Char :=
  cs.map fun c => if c = '.' then '/' else c

lemma slashes_dots {cs : List Char} (h : '.' ∉ cs) : slashes (dots cs) = cs := by
  induction cs with
  | nil => rfl
  | cons c cs ih =>
    obtain ⟨hc, hcs⟩ := List.ne_and_not_mem_of_not_mem_cons h
    have hback : (if (if c = '/' then '.' else c) = '.' then '/' else
        (if c = '/' then '.' else c)) = c := by
      by_cases hs : c = '/'
      · rw [if_pos hs, if_pos rfl, hs]
      · rw [if_neg hs, if_neg (Ne.symm hc)]
    exact congrArg₂ List.cons hback (ih hcs)

lemma count_bracket_name (path : ClassPath) (dimensions : Nat) :
    (classNameChars (path.descriptor dimensions)).count '[' = dimensions := by
  have hpath : '[' ∉ dots path.chars := by
    intro h
    rcases mem_dots h with he | ⟨hc, -⟩
    · cases he
    · exact path.bracket_not_mem hc
  rw [ClassPath.descriptor, classNameChars_object, List.count_append,
    List.count_eq_zero_of_not_mem hpath]
  simp [List.count_flatten]

lemma classNameChars_descriptor_inj {m n : Nat} {b c : ClassPath}
    (h : classNameChars (b.descriptor m) = classNameChars (c.descriptor n)) : m = n ∧ b = c := by
  -- the path has no bracket, so the brackets of the name are those of the dimensions
  obtain rfl : m = n := by
    rw [← count_bracket_name b m, h, count_bracket_name]
  refine ⟨rfl, ClassPath.ext ?_⟩
  rw [ClassPath.descriptor, ClassPath.descriptor, classNameChars_object, classNameChars_object,
    List.append_cancel_right_eq] at h
  rw [← slashes_dots b.dot_not_mem, h, slashes_dots c.dot_not_mem]

end Names

end Smali

end ApkAudit
