import ApkAudit.Text.Blank
import ApkAudit.Text.Lines
import ApkAudit.Text.Word
import Mathlib.Data.List.DropRight
import Mathlib.Data.List.TakeWhile
import Mathlib.Tactic.Common

/-! How texts that are put together from known parts are taken apart again: stops at a character,
fixed beginnings, blanks at the ends, and lines. -/

namespace ApkAudit.Text

section Stops

variable {p : Char → Bool} {word : List Char} {stop : Char}

lemma takeWhile_stop (hw : ∀ c ∈ word, p c = true) (hs : p stop = false) (rest : List Char) :
    (word ++ stop :: rest).takeWhile p = word := by
  simp [List.takeWhile_append_of_pos hw, hs]

lemma dropWhile_stop (hw : ∀ c ∈ word, p c = true) (hs : p stop = false) (rest : List Char) :
    (word ++ stop :: rest).dropWhile p = stop :: rest := by
  simp [List.dropWhile_append_of_pos hw, hs]

lemma ne_of_not_mem (h : stop ∉ word) : ∀ c ∈ word, decide (c ≠ stop) = true := by
  intro c hc
  simp only [decide_eq_true_eq]
  rintro rfl
  exact h hc

end Stops

section Pieces

lemma splitChar_of_not_mem {sep : Char} {cs : List Char} (h : sep ∉ cs) :
    splitChar sep cs = [cs] := by
  induction cs with
  | nil => rfl
  | cons c cs ih =>
    obtain ⟨hc, hcs⟩ := List.ne_and_not_mem_of_not_mem_cons h
    simp [splitChar, Ne.symm hc, ih hcs]

lemma splitChar_ne_nil (sep : Char) (cs : List Char) : splitChar sep cs ≠ [] := by
  cases cs with
  | nil => simp [splitChar]
  | cons c cs =>
    unfold splitChar
    split
    · simp
    · split <;> simp

lemma splitChar_append (sep : Char) (as bs : List Char) :
    splitChar sep (as ++ sep :: bs) = splitChar sep as ++ splitChar sep bs := by
  induction as with
  | nil => simp [splitChar]
  | cons a as ih =>
    by_cases ha : a = sep
    · simp [splitChar, ha, ih]
    · obtain ⟨piece, pieces, hp⟩ := List.exists_cons_of_ne_nil (splitChar_ne_nil sep as)
      simp [splitChar, ha, ih, hp]

lemma not_mem_of_mem_splitChar {sep : Char} {cs piece : List Char}
    (h : piece ∈ splitChar sep cs) : sep ∉ piece := by
  induction cs generalizing piece with
  | nil => simp_all [splitChar]
  | cons c cs ih =>
    obtain ⟨first, rest, hr⟩ := List.exists_cons_of_ne_nil (splitChar_ne_nil sep cs)
    by_cases hc : c = sep
    · simp only [splitChar, hc, if_true, List.mem_cons] at h
      rcases h with rfl | h
      · simp
      · exact ih h
    · simp only [splitChar, hc, if_false, hr, List.mem_cons] at h
      rcases h with rfl | h
      · have hf : sep ∉ first := ih (by simp [hr])
        simpa [Ne.symm hc] using hf
      · exact ih (by simp [hr, h])

end Pieces

@[simp] lemma dropStart?_append (start rest : List Char) :
    dropStart? start (start ++ rest) = some rest := by
  induction start with
  | nil => rfl
  | cons c start ih => simp [dropStart?, ih]

lemma dropStart?_eq_none {start text : List Char} (h : ¬ start <+: text) :
    dropStart? start text = none := by
  induction start generalizing text with
  | nil => exact (h (List.nil_prefix)).elim
  | cons a start ih =>
    cases text with
    | nil => rfl
    | cons b text =>
      rw [List.cons_prefix_cons, not_and] at h
      by_cases hab : a = b
      · simpa [dropStart?, hab] using ih (h hab)
      · simp [dropStart?, hab]

lemma of_dropStart? {start text rest : List Char} (h : dropStart? start text = some rest) :
    text = start ++ rest := by
  by_cases hp : start <+: text
  · obtain ⟨rest', rfl⟩ := hp
    rw [dropStart?_append, Option.some.injEq] at h
    rw [h]
  · rw [dropStart?_eq_none hp] at h
    cases h

section Characters

variable {c : Char}

def isAsciiWord (c : Char) : Bool :=
  c.isAlphanum || c = '_'

lemma isWord_of_ascii (h : isAsciiWord c = true) : isWord c = true := by
  simp only [isAsciiWord, Bool.or_eq_true, decide_eq_true_eq] at h
  rcases h with h | h <;> simp [isWord, h]

lemma range_of_isAlphanum (h : c.isAlphanum = true) : 48 ≤ c.toNat ∧ c.toNat ≤ 122 := by
  have ha : (c.isAlpha || c.isDigit) = true := h
  rcases Bool.or_eq_true_iff.mp ha with ha | hd
  · have hc : (c.isUpper || c.isLower) = true := ha
    rcases Bool.or_eq_true_iff.mp hc with hu | hl
    · obtain ⟨h₁, h₂⟩ : 'A'.val ≤ c.val ∧ c.val ≤ 'Z'.val := of_decide_eq_true hu
      exact ⟨Nat.le_trans (by decide) (UInt32.le_iff_toNat_le.mp h₁),
        Nat.le_trans (UInt32.le_iff_toNat_le.mp h₂) (by decide)⟩
    · have hr : (decide ('a'.val ≤ c.val) && decide (c.val ≤ 'z'.val)) = true := hl
      obtain ⟨h₁, h₂⟩ := Bool.and_eq_true_iff.mp hr
      exact ⟨Nat.le_trans (by decide) (UInt32.le_iff_toNat_le.mp (of_decide_eq_true h₁)),
        UInt32.le_iff_toNat_le.mp (of_decide_eq_true h₂)⟩
  · have hr : (decide ('0'.val ≤ c.val) && decide (c.val ≤ '9'.val)) = true := hd
    obtain ⟨h₁, h₂⟩ := Bool.and_eq_true_iff.mp hr
    exact ⟨UInt32.le_iff_toNat_le.mp (of_decide_eq_true h₁),
      Nat.le_trans (UInt32.le_iff_toNat_le.mp (of_decide_eq_true h₂)) (by decide)⟩

lemma isBlank_of_ascii (h : isAsciiWord c = true) : isBlank c = false := by
  have hc : 48 ≤ c.toNat ∧ c.toNat ≤ 122 := by
    simp only [isAsciiWord, Bool.or_eq_true, decide_eq_true_eq] at h
    rcases h with h | rfl
    · exact range_of_isAlphanum h
    · decide
  simp only [isBlank, blankRanges, List.any_cons, List.any_nil, Bool.or_false, Bool.or_eq_false_iff,
    Bool.and_eq_false_iff, decide_eq_false_iff_not]
  omega

end Characters

section Blanks

variable {cs indent : List Char}

def IsIndent (cs : List Char) : Prop :=
  ∀ c ∈ cs, c = ' ' ∨ c = '\t'

lemma isIndent_nil : IsIndent [] :=
  List.forall_mem_nil _

lemma isIndent_space : IsIndent [' '] :=
  List.forall_mem_singleton.mpr (.inl rfl)

lemma IsIndent.isBlank (h : IsIndent indent) : ∀ c ∈ indent, isBlank c = true := by
  intro c hc
  rcases h c hc with rfl | rfl <;> rfl

def IsSolid (cs : List Char) : Prop :=
  ∀ c ∈ cs, isBlank c = false

instance (cs : List Char) : Decidable (IsSolid cs) :=
  List.decidableBAll (isBlank · = false) cs

lemma trimStartChars_cons {c : Char} (h : isBlank c = false) (rest : List Char) :
    trimStartChars (c :: rest) = c :: rest := by
  simp [trimStartChars, h]

lemma IsSolid.trimStart (h : IsSolid cs) : trimStartChars cs = cs := by
  cases cs with
  | nil => rfl
  | cons c cs => exact trimStartChars_cons (h c List.mem_cons_self) cs

lemma IsSolid.trim (h : IsSolid cs) : trimChars cs = cs := by
  have hr : IsSolid cs.reverse := fun c hc => h c (List.mem_reverse.mp hc)
  have he : cs.reverse.dropWhile isBlank = cs.reverse := hr.trimStart
  rw [trimChars, h.trimStart, trimEndChars, he, List.reverse_reverse]

lemma exists_first_blank (h : ¬ IsSolid cs) :
    ∃ front b back, cs = front ++ b :: back ∧ IsSolid front ∧ isBlank b = true := by
  induction cs with
  | nil => exact absurd (by simp [IsSolid]) h
  | cons c cs ih =>
    cases hc : isBlank c with
    | true => exact ⟨[], c, cs, rfl, by simp [IsSolid], hc⟩
    | false =>
      have hcs : ¬ IsSolid cs := fun hs => h (List.forall_mem_cons.mpr ⟨hc, hs⟩)
      obtain ⟨front, b, back, rfl, hf, hb⟩ := ih hcs
      exact ⟨c :: front, b, back, rfl, List.forall_mem_cons.mpr ⟨hc, hf⟩, hb⟩

lemma IsIndent.no_feed (h : IsIndent indent) : '\n' ∉ indent := by
  intro hm
  rcases h _ hm with he | he <;> cases he

lemma IsSolid.no_feed (h : IsSolid cs) : '\n' ∉ cs := by
  intro hm
  cases h _ hm

lemma IsSolid.append {as bs : List Char} (ha : IsSolid as) (hb : IsSolid bs) :
    IsSolid (as ++ bs) := by
  intro c hc
  exact (List.mem_append.mp hc).elim (ha c) (hb c)

lemma trimStartChars_append (h : IsIndent indent) (rest : List Char) :
    trimStartChars (indent ++ rest) = trimStartChars rest :=
  List.dropWhile_append_of_pos h.isBlank

lemma trimChars_append (h : IsIndent indent) (rest : List Char) :
    trimChars (indent ++ rest) = trimChars rest := by
  rw [trimChars, trimStartChars_append h, trimChars]

lemma trimEndChars_concat {b : Char} (h : isBlank b = true) (cs : List Char) :
    trimEndChars (cs ++ [b]) = trimEndChars cs := by
  simp [trimEndChars, h]

lemma trimEndChars_append {front : List Char} {c : Char} (hl : front.getLast? = some c)
    (hc : isBlank c = false) (trailing : List Char) :
    trimEndChars (front ++ trailing) = front ++ trimEndChars trailing := by
  obtain ⟨init, rfl⟩ := List.getLast?_eq_some_iff.mp hl
  rw [trimEndChars, trimEndChars, List.reverse_append, List.dropWhile_append]
  split
  · next he =>
    rw [List.isEmpty_iff.mp he]
    simp [hc]
  · simp

lemma takeWhile_trimEndChars (cs : List Char) :
    (trimEndChars cs).takeWhile (fun c => !isBlank c) = cs.takeWhile fun c => !isBlank c := by
  have hsplit : cs.rdropWhile isBlank ++ cs.rtakeWhile isBlank = cs :=
    List.rdropWhile_append_rtakeWhile
  have hblank : (cs.rtakeWhile isBlank).takeWhile (fun c => !isBlank c) = [] := by
    cases ht : cs.rtakeWhile isBlank with
    | nil => rfl
    | cons c rest =>
      have hc : isBlank c = true := List.mem_rtakeWhile_imp (ht ▸ List.mem_cons_self)
      simp [hc]
  have he : trimEndChars cs = cs.rdropWhile isBlank := rfl
  conv_rhs => rw [← hsplit, List.takeWhile_append, hblank, List.append_nil]
  rw [he]
  split
  · next hlen => exact (List.takeWhile_prefix _).eq_of_length hlen
  · rfl

lemma trimEndChars_isPrefix (cs : List Char) : trimEndChars cs <+: cs := by
  have h := List.dropWhile_suffix isBlank (l := cs.reverse)
  rw [← List.reverse_prefix, List.reverse_reverse] at h
  exact h

lemma trimChars_eq_self {start rest tail : List Char} (hh : start.head?.map isBlank = some false)
    (hn : tail ≠ []) (ht : IsSolid tail) (hs : tail <:+ start ++ rest) :
    trimChars (start ++ rest) = start ++ rest := by
  obtain ⟨c, hc, hblank⟩ := Option.map_eq_some_iff.mp hh
  obtain ⟨body, rfl⟩ := List.head?_eq_some_iff.mp hc
  obtain ⟨front, hf⟩ := hs
  obtain ⟨init, last, rfl⟩ := (List.eq_nil_or_concat tail).resolve_left hn
  have hl : isBlank last = false := ht last (by simp)
  rw [trimChars, List.cons_append, trimStartChars_cons hblank, ← List.cons_append, ← hf]
  simp [trimEndChars, hl]

lemma trimChars_dropReturn (cs : List Char) : trimChars (dropReturn cs) = trimChars cs := by
  unfold dropReturn
  split
  · next h =>
    obtain ⟨front, rfl⟩ := List.getLast?_eq_some_iff.mp h
    rw [List.dropLast_concat, trimChars, trimChars, trimStartChars, trimStartChars,
      List.dropWhile_append]
    split
    · next he =>
      rw [List.isEmpty_iff.mp he]
      rfl
    · rw [trimEndChars_concat rfl]
  · rfl

lemma isBlankText_trim {s : String} (h : isBlankText (trim s) = true) : trim s = "" := by
  have hall : ∀ c ∈ trimChars s.toList, isBlank c = true := by
    simpa [isBlankText, trim] using h
  have hn : trimChars s.toList = [] := by
    by_contra hne
    have hr : (s.toList.dropWhile isBlank).reverse.dropWhile isBlank ≠ [] := by
      simpa [trimChars, trimEndChars, trimStartChars] using hne
    have hh := List.head?_dropWhile_not isBlank (s.toList.dropWhile isBlank).reverse
    rw [List.head?_eq_some_head hr] at hh
    have hm := hall _ (List.mem_reverse.mpr (List.head_mem hr))
    simp_all
  simp [trim, hn]

end Blanks

section Lines

variable {line : List Char}

lemma linesFrom_append (current : List Char) (h : '\n' ∉ line) (rest : List Char) :
    linesFrom current (line ++ rest) = linesFrom (line.reverse ++ current) rest := by
  induction line generalizing current with
  | nil => rfl
  | cons c line ih =>
    obtain ⟨hc, hl⟩ := List.ne_and_not_mem_of_not_mem_cons h
    rw [List.cons_append, linesFrom, ih _ hl, List.reverse_cons, List.append_assoc]
    · rfl
    · exact fun he => hc he.symm

lemma lines_append_feed (h : '\n' ∉ line) (rest : List Char) :
    lines (line ++ '\n' :: rest) = dropReturn line :: lines rest := by
  rw [lines, linesFrom_append [] h, List.append_nil, linesFrom, List.reverse_reverse, lines]

lemma lines_of_no_feed (h : '\n' ∉ line) : lines line = if line = [] then [] else [line] := by
  have hl := linesFrom_append [] h []
  rw [List.append_nil] at hl
  simp [lines, hl, linesFrom]

inductive LineEnd : List Char → List Char → Prop
  | feed (rest : List Char) : LineEnd ['\n'] rest
  | returnFeed (rest : List Char) : LineEnd ['\r', '\n'] rest
  | textEnd : LineEnd [] []

lemma filterMap_lines {α : Type} {f : List Char → Option α} (hf : ∀ cs, f (dropReturn cs) = f cs)
    (hn : f [] = none) (h : '\n' ∉ line) {ending rest : List Char} (he : LineEnd ending rest) :
    (lines (line ++ (ending ++ rest))).filterMap f =
      (f line).toList ++ (lines rest).filterMap f := by
  cases he with
  | feed =>
    rw [List.singleton_append, lines_append_feed h, List.filterMap_cons, hf]
    cases f line <;> rfl
  | returnFeed =>
    have hr : '\n' ∉ line ++ ['\r'] := by simp [h]
    have hd : dropReturn (line ++ ['\r']) = line := by simp [dropReturn]
    have hl : lines (line ++ (['\r', '\n'] ++ rest)) = line :: lines rest := by
      simpa [hd] using lines_append_feed hr rest
    rw [hl, List.filterMap_cons]
    cases f line <;> rfl
  | textEnd =>
    rw [List.append_nil, List.append_nil, lines_of_no_feed h]
    split
    · next hl => simp [hl, hn, lines, linesFrom]
    · cases hfl : f line <;> simp [hfl, lines, linesFrom]

end Lines

end ApkAudit.Text
