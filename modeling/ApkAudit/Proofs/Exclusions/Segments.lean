import ApkAudit.Exclusions
import ApkAudit.Proofs.Text.Scan
import Mathlib.Data.List.DropRight

/-! Which dotted names a list of patterns leaves out, segment by segment.  A pattern is compared
with a name as text, and with one character behind it; what this comes to is that all segments of
the pattern are segments of the name, of which the last may go on with a dollar sign. -/

namespace ApkAudit.Exclusions

open Text

def isSegmentChar (c : Char) : Bool :=
  !isBlank c && c ≠ '.' && c ≠ '/' && c ≠ ';'

structure DottedName where
  segments : List (List Char)
  ne_nil : segments ≠ []
  segment_ne_nil : ∀ s ∈ segments, s ≠ []
  segment_ok : ∀ s ∈ segments, s.all isSegmentChar = true

def joined (segments : List (List Char)) : List Char :=
  List.intercalate ['.'] segments

def DottedName.text (n : DottedName) : String :=
  String.ofList (joined n.segments)

/-- The segments before the last are those of the name, and the last one is, or goes on with a
dollar sign. -/
structure CoversSegments (pattern name : List (List Char)) : Prop where
  length_le : pattern.length ≤ name.length
  before_last : ∀ i, i + 1 < pattern.length → name[i]? = pattern[i]?
  at_last : ∃ s t, pattern[pattern.length - 1]? = some s ∧ name[pattern.length - 1]? = some t ∧
    (t = s ∨ s ++ ['$'] <+: t)

section Joining

variable {s t : List Char} {ss ts : List (List Char)}

lemma joined_singleton (s : List Char) : joined [s] = s := by
  simp [joined]

lemma joined_cons_cons (s t : List Char) (ts : List (List Char)) :
    joined (s :: t :: ts) = s ++ '.' :: joined (t :: ts) := by
  simp [joined, List.intercalate_cons_cons]

lemma joined_cons (s : List Char) (ss : List (List Char)) :
    ∃ rest, joined (s :: ss) = s ++ rest ∧ ∀ c ∈ rest.head?, c = '.' := by
  cases ss with
  | nil => exact ⟨[], by simp [joined_singleton], by simp⟩
  | cons t ts => exact ⟨'.' :: joined (t :: ts), joined_cons_cons s t ts, by simp⟩

lemma mem_joined {c : Char} (h : c ∈ joined ss) : c = '.' ∨ ∃ s ∈ ss, c ∈ s := by
  induction ss with
  | nil => simp [joined] at h
  | cons s ss ih =>
    cases ss with
    | nil => exact .inr ⟨s, List.mem_cons_self, by simpa [joined_singleton] using h⟩
    | cons t ts =>
      rw [joined_cons_cons, List.mem_append, List.mem_cons] at h
      rcases h with hs | rfl | ht
      · exact .inr ⟨s, List.mem_cons_self, hs⟩
      · exact .inl rfl
      · apply (ih ht).imp_right
        rintro ⟨u, hu, hc⟩
        exact ⟨u, List.mem_cons_of_mem s hu, hc⟩

lemma getLast?_joined (hn : ss ≠ []) (hs : ∀ s ∈ ss, s ≠ []) :
    ∃ s ∈ ss, (joined ss).getLast? = s.getLast? := by
  induction ss with
  | nil => exact absurd rfl hn
  | cons s ss ih =>
    cases ss with
    | nil => exact ⟨s, List.mem_cons_self, by rw [joined_singleton]⟩
    | cons t ts =>
      obtain ⟨u, hu, hl⟩ := ih (List.cons_ne_nil t ts) fun v hv => hs v (List.mem_cons_of_mem s hv)
      have hne : (joined (t :: ts)).getLast? ≠ none := by
        rw [hl, Ne, List.getLast?_eq_none_iff]
        exact hs u (List.mem_cons_of_mem s hu)
      obtain ⟨c, hc⟩ := Option.ne_none_iff_exists'.mp hne
      refine ⟨u, List.mem_cons_of_mem s hu, ?_⟩
      rw [← hl, joined_cons_cons, List.getLast?_append, List.getLast?_cons, hc]
      rfl

lemma takeWhile_segment {rest : List Char} (hs : '.' ∉ s) (hr : ∀ c ∈ rest.head?, c = '.') :
    (s ++ rest).takeWhile (· ≠ '.') = s := by
  rw [List.takeWhile_append_of_pos (ne_of_not_mem hs)]
  cases rest with
  | nil => simp
  | cons c rest => simp [hr c rfl]

end Joining

section Covering

variable {s t : List Char} {ss ts : List (List Char)}

def GoesOn (rest : List Char) : Prop :=
  ∀ c ∈ rest.head?, c = '.' ∨ c = '$'

lemma covers_append_iff {package rest : List Char} :
    covers package (package ++ rest) = true ↔ GoesOn rest := by
  rw [covers, dropStart?_append]
  cases rest with
  | nil => simp [GoesOn]
  | cons c rest => simp [GoesOn]

lemma covers_eq_true_iff {package name : List Char} :
    covers package name = true ↔ ∃ rest, name = package ++ rest ∧ GoesOn rest := by
  constructor
  · intro h
    by_cases hp : package <+: name
    · obtain ⟨rest, rfl⟩ := hp
      exact ⟨rest, rfl, covers_append_iff.mp h⟩
    · rw [covers, dropStart?_eq_none hp] at h
      cases h
  · rintro ⟨rest, rfl, hr⟩
    exact covers_append_iff.mpr hr

lemma coversSegments_singleton (s t : List Char) (ts : List (List Char)) :
    CoversSegments [s] (t :: ts) ↔ t = s ∨ s ++ ['$'] <+: t := by
  constructor
  · rintro ⟨-, -, s', t', hs, ht, h⟩
    simp only [List.length_singleton, Nat.sub_self, List.getElem?_cons_zero,
      Option.some.injEq] at hs ht
    subst hs
    subst ht
    exact h
  · intro h
    exact ⟨by simp, by simp, s, t, rfl, rfl, h⟩

lemma coversSegments_cons_cons (s t u : List Char) (ss ts : List (List Char)) :
    CoversSegments (s :: u :: ss) (t :: ts) ↔ t = s ∧ CoversSegments (u :: ss) ts := by
  constructor
  · rintro ⟨hl, hb, hlast⟩
    refine ⟨by simpa using hb 0 (by simp), ?_, fun i hi => ?_, hlast⟩
    · simpa using hl
    · simpa using hb (i + 1) (by simpa using hi)
  · rintro ⟨rfl, hl, hb, hlast⟩
    refine ⟨by simpa using hl, fun i hi => ?_, hlast⟩
    cases i with
    | zero => rfl
    | succ i => simpa using hb i (by simpa using hi)

lemma coversSegments_nil (s : List Char) (ss : List (List Char)) : ¬ CoversSegments (s :: ss) [] :=
  fun h => by simpa using h.length_le

lemma exists_goesOn_singleton (hs : '.' ∉ s) (ht : '.' ∉ t) (ts : List (List Char)) :
    (∃ rest, joined (t :: ts) = s ++ rest ∧ GoesOn rest) ↔ t = s ∨ s ++ ['$'] <+: t := by
  obtain ⟨tail, htail, hdot⟩ := joined_cons t ts
  rw [htail]
  constructor
  · rintro ⟨rest, he, hr⟩
    -- the first segment is what stands before the first dot, on either side
    have hfirst : t = s ++ rest.takeWhile (· ≠ '.') := by
      rw [← takeWhile_segment ht hdot, he, List.takeWhile_append_of_pos (ne_of_not_mem hs)]
    cases rest with
    | nil => exact .inl (by simpa using hfirst)
    | cons c rest =>
      rcases hr c rfl with rfl | rfl
      · exact .inl (by simpa using hfirst)
      · refine .inr ⟨rest.takeWhile (· ≠ '.'), ?_⟩
        rw [hfirst]
        simp
  · rintro (rfl | ⟨more, rfl⟩)
    · exact ⟨tail, rfl, fun c hc => .inl (hdot c hc)⟩
    · refine ⟨'$' :: (more ++ tail), by simp, ?_⟩
      rintro c ⟨⟩
      exact .inr rfl

lemma append_dot_inj {a b : List Char} (hs : '.' ∉ s) (ht : '.' ∉ t) :
    s ++ '.' :: a = t ++ '.' :: b ↔ s = t ∧ a = b := by
  constructor
  · intro he
    have hdot : decide ('.' ≠ '.') = false := rfl
    have hst : s = t := by
      rw [← takeWhile_stop (ne_of_not_mem hs) hdot a, he, takeWhile_stop (ne_of_not_mem ht) hdot]
    subst hst
    simpa using he
  · rintro ⟨rfl, rfl⟩
    rfl

lemma exists_goesOn_iff (hs : ∀ s ∈ ss, '.' ∉ s) (ht : ∀ t ∈ ts, '.' ∉ t) (hsn : ss ≠ [])
    (htn : ts ≠ []) :
    (∃ rest, joined ts = joined ss ++ rest ∧ GoesOn rest) ↔ CoversSegments ss ts := by
  induction ss generalizing ts with
  | nil => exact absurd rfl hsn
  | cons s ss ih =>
    obtain ⟨t, ts, rfl⟩ := List.exists_cons_of_ne_nil htn
    obtain ⟨hs₁, hs₂⟩ := List.forall_mem_cons.mp hs
    obtain ⟨ht₁, ht₂⟩ := List.forall_mem_cons.mp ht
    cases ss with
    | nil => rw [joined_singleton, exists_goesOn_singleton hs₁ ht₁, coversSegments_singleton]
    | cons u ss =>
      rw [coversSegments_cons_cons, joined_cons_cons]
      cases ts with
      | nil =>
        refine iff_of_false ?_ fun h => coversSegments_nil u ss h.2
        -- a name of one segment has no dot, but the pattern does
        rintro ⟨rest, he, -⟩
        apply ht₁
        rw [← joined_singleton t, he]
        simp
      | cons v ts =>
        rw [joined_cons_cons, ← ih hs₂ ht₂ (List.cons_ne_nil u ss) (List.cons_ne_nil v ts)]
        simp only [List.append_assoc, List.cons_append, append_dot_inj ht₁ hs₁]
        simp only [and_assoc, exists_and_left]

end Covering

section Normal

lemma toList_normalize (name : String) : (normalize name).toList = normalizeChars name.toList :=
  String.toList_ofList

lemma normalizeChars_of_dotted {cs : List Char} (hs : IsSolid cs) (hslash : '/' ∉ cs)
    (hstop : ';' ∉ cs) : normalizeChars cs = cs.rdropWhile (· = '.') := by
  have hhead : ¬ (cs.head? = some 'L' ∧ ('/' ∈ cs ∨ cs.getLast? = some ';')) := by
    rintro ⟨-, h | h⟩
    · exact hslash h
    · exact hstop (List.mem_of_getLast? h)
  have hend : dropEnd (· = ';') cs = cs := by
    apply List.rdropWhile_eq_self_iff.mpr
    intro hn he
    apply hstop
    rw [← of_decide_eq_true he]
    exact List.getLast_mem hn
  have hdots : (cs.map fun c => if c = '/' then '.' else c) = cs := by
    refine List.map_congr_left (fun c hc => if_neg ?_) |>.trans (List.map_id cs)
    rintro rfl
    exact hslash hc
  rw [normalizeChars, hs.trim, if_neg hhead, hend, hdots]
  rfl

lemma DottedName.not_mem (n : DottedName) {c : Char} (hc : isSegmentChar c = false) :
    ∀ s ∈ n.segments, c ∉ s := by
  intro s hs hm
  have h := List.all_eq_true.mp (n.segment_ok s hs) c hm
  rw [hc] at h
  cases h

lemma DottedName.not_mem_joined (n : DottedName) {c : Char} (hc : isSegmentChar c = false)
    (hd : c ≠ '.') : c ∉ joined n.segments := by
  intro hm
  rcases mem_joined hm with rfl | ⟨s, hs, hcs⟩
  · exact hd rfl
  · exact n.not_mem hc s hs hcs

lemma DottedName.solid_joined (n : DottedName) : IsSolid (joined n.segments) := by
  intro c hc
  by_contra hb
  rw [Bool.not_eq_false] at hb
  have hs : isSegmentChar c = false := by simp [isSegmentChar, hb]
  refine n.not_mem_joined hs ?_ hc
  rintro rfl
  cases hb

lemma DottedName.normalizeChars_joined (n : DottedName) :
    normalizeChars (joined n.segments) = joined n.segments := by
  rw [normalizeChars_of_dotted n.solid_joined (n.not_mem_joined rfl (by decide))
    (n.not_mem_joined rfl (by decide)), List.rdropWhile_eq_self_iff]
  intro hn he
  obtain ⟨s, hs, hl⟩ := getLast?_joined n.ne_nil n.segment_ne_nil
  rw [List.getLast?_eq_some_getLast hn, of_decide_eq_true he] at hl
  exact n.not_mem rfl s hs (List.mem_of_getLast? hl.symm)

lemma DottedName.text_ne_empty (n : DottedName) : n.text ≠ "" := by
  obtain ⟨s, hs, hl⟩ := getLast?_joined n.ne_nil n.segment_ne_nil
  intro he
  have hj : joined n.segments = [] := by simpa [DottedName.text] using he
  rw [hj, List.getLast?_nil, eq_comm, List.getLast?_eq_none_iff] at hl
  exact n.segment_ne_nil s hs hl

lemma packages_ofPatterns (patterns : List DottedName) :
    (ofPatterns (patterns.map DottedName.text)).packages = patterns.map DottedName.text := by
  have hmap : (patterns.map DottedName.text).map normalize = patterns.map DottedName.text := by
    rw [List.map_map]
    apply List.map_congr_left
    intro n _
    simp [normalize, DottedName.text, n.normalizeChars_joined]
  rw [ofPatterns, hmap, List.filter_eq_self]
  intro text ht
  obtain ⟨n, -, rfl⟩ := List.mem_map.mp ht
  simpa using n.text_ne_empty

lemma DottedName.covers_text_iff (pattern name : DottedName) :
    covers pattern.text.toList (normalizeChars name.text.toList) = true ↔
      CoversSegments pattern.segments name.segments := by
  rw [DottedName.text, DottedName.text, String.toList_ofList, String.toList_ofList,
    name.normalizeChars_joined, covers_eq_true_iff]
  exact exists_goesOn_iff (pattern.not_mem rfl) (name.not_mem rfl) pattern.ne_nil name.ne_nil

end Normal

/-- UTF-8 is a prefix code: bytes that begin with those of a text continue with a text. -/
lemma exists_rest_of_bytes {start text : String} {more : ByteArray}
    (h : text.toByteArray = start.toByteArray ++ more) :
    ∃ rest : String, rest.toByteArray = more ∧ text = start ++ rest := by
  have he : start.toList.utf8Encode ++ more = text.toList.utf8Encode := by
    rw [String.utf8Encode_toList, String.utf8Encode_toList, h]
  obtain ⟨rest, hr⟩ := List.isPrefix_of_utf8Encode_append_eq_utf8Encode more he
  have ht : text = start ++ String.ofList rest := by
    rw [← String.toList_inj, String.toList_append, String.toList_ofList, hr]
  refine ⟨String.ofList rest, ?_, ht⟩
  rw [ht, String.toByteArray_append] at h
  exact ByteArray.append_right_inj start.toByteArray |>.mp h

/-- A dotted name is excluded exactly if a pattern covers it segment by segment.  Where the bytes of
a package begin a name, they end between two characters of it, and what follows is a text that
decides. -/
theorem excludes_iff_coversSegments (patterns : List DottedName) (name : DottedName) :
    ((ofPatterns (patterns.map DottedName.text)).excludes name.text = true ↔
        ∃ pattern ∈ patterns, CoversSegments pattern.segments name.segments) ∧
      ∀ (package qualified : String) (more : ByteArray),
        (normalize qualified).toByteArray = package.toByteArray ++ more →
          package.rawEndPos.IsValid (normalize qualified) ∧
            ∃ rest : String, rest.toByteArray = more ∧ normalize qualified = package ++ rest ∧
              (covers package.toList (normalizeChars qualified.toList) = true ↔
                GoesOn rest.toList) := by
  constructor
  · rw [excludes, packages_ofPatterns, List.any_map, List.any_eq_true]
    simp only [Function.comp_apply, DottedName.covers_text_iff]
  · intro package qualified more h
    obtain ⟨rest, hr, ht⟩ := exists_rest_of_bytes h
    have hchars : normalizeChars qualified.toList = package.toList ++ rest.toList := by
      rw [← String.toList_append, ← ht, toList_normalize]
    refine ⟨?_, rest, hr, ht, ?_⟩
    · rw [String.Pos.Raw.isValid_iff_exists_append]
      exact ⟨package, rest, ht, rfl⟩
    · rw [hchars, covers_append_iff]

def summer : DottedName :=
  ⟨["com".toList, "été".toList], by decide, by decide, by decide⟩

def summerClass : DottedName :=
  ⟨["com".toList, "été$A".toList, "b".toList], by decide, by decide, by decide⟩

def summerClone : DottedName :=
  ⟨["com".toList, "étéclone".toList], by decide, by decide, by decide⟩

theorem excludes_iff_coversSegments_summer :
    (ofPatterns ([summer].map DottedName.text)).excludes summerClass.text = true ∧
      (ofPatterns ([summer].map DottedName.text)).excludes summerClone.text ≠ true ∧
      (normalize "Lcom/été$A;").toByteArray = "com.été".toByteArray ++ "$A".toByteArray ∧
      "com.été".rawEndPos.IsValid (normalize "Lcom/été$A;") := by
  have hcovers : CoversSegments summer.segments summerClass.segments := by
    simp only [summer, summerClass, coversSegments_cons_cons, coversSegments_singleton]
    decide
  have hclone : ¬ CoversSegments summer.segments summerClone.segments := by
    simp only [summer, summerClone, coversSegments_cons_cons, coversSegments_singleton]
    decide
  have hbytes : (normalize "Lcom/été$A;").toByteArray =
      "com.été".toByteArray ++ "$A".toByteArray := by
    rw [← String.toByteArray_append]
    decide
  refine ⟨?_, ?_, hbytes, ((excludes_iff_coversSegments [] summer).2 _ _ _ hbytes).1⟩
  · exact (excludes_iff_coversSegments [summer] summerClass).1.mpr
      ⟨summer, List.mem_singleton_self summer, hcovers⟩
  · rw [Ne, (excludes_iff_coversSegments [summer] summerClone).1]
    rintro ⟨pattern, hp, h⟩
    obtain rfl := List.mem_singleton.mp hp
    exact hclone h

end ApkAudit.Exclusions
