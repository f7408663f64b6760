import ApkAudit.Smali.Literal
import ApkAudit.Smali.Statement
import Mathlib.Tactic.Common

/-! String literals: all the ways to write a string between quotes.  Each of them ends at its
closing quote, and stands for the string. -/

namespace ApkAudit.Smali

open Text

def IsHexDigit (value : Nat) (digit : Char) : Prop :=
  digit = value.digitChar ∨ digit = value.digitChar.toUpper

inductive Spells : Char → List Char → Prop
  | plain {c : Char} : c ≠ '"' → c ≠ '\\' → c ≠ '\n' → Spells c [c]
  | covered {c : Char} : c ∉ ['n', 't', 'r', 'u', '\n'] → Spells c ['\\', c]
  | feed : Spells '\n' ['\\', 'n']
  | tab : Spells '\t' ['\\', 't']
  | carriage : Spells '\r' ['\\', 'r']
  | code {c d₃ d₂ d₁ d₀ : Char} : c.toNat ≤ 0xFFFF →
      IsHexDigit (c.toNat / 4096) d₃ → IsHexDigit (c.toNat / 256 % 16) d₂ →
      IsHexDigit (c.toNat / 16 % 16) d₁ → IsHexDigit (c.toNat % 16) d₀ →
      Spells c ['\\', 'u', d₃, d₂, d₁, d₀]

inductive Spelled : List Char → List Char → Prop
  | nil : Spelled [] []
  | cons {c : Char} {cs written rest : List Char} :
      Spells c written → Spelled cs rest → Spelled (c :: cs) (written ++ rest)

lemma digit?_of_isHexDigit {value : Nat} {digit : Char} (hv : value < 16)
    (h : IsHexDigit value digit) : Number.digit? 16 digit = some value := by
  have hd : ∀ v < 16, Number.digit? 16 v.digitChar = some v ∧
      Number.digit? 16 v.digitChar.toUpper = some v := by decide
  rcases h with rfl | rfl
  · exact (hd value hv).1
  · exact (hd value hv).2

lemma ne_of_digit? {value : Nat} {digit c : Char} (h : Number.digit? 16 digit = some value)
    (hc : Number.digit? 16 c = none) : digit ≠ c := by
  rintro rfl
  rw [hc] at h
  cases h

lemma readDigits_cons {radix bound value d : Nat} {digit : Char}
    (hd : Number.digit? radix digit = some d) (hb : value * radix + d ≤ bound) (rest : List Char) :
    Number.readDigits radix bound value (digit :: rest) =
      Number.readDigits radix bound (value * radix + d) rest := by
  simp [Number.readDigits, hd, hb]

lemma readUnsigned_of_digits {unit : Nat} {d₃ d₂ d₁ d₀ : Char} (hu : unit ≤ 0xFFFF)
    (h₃ : IsHexDigit (unit / 4096) d₃) (h₂ : IsHexDigit (unit / 256 % 16) d₂)
    (h₁ : IsHexDigit (unit / 16 % 16) d₁) (h₀ : IsHexDigit (unit % 16) d₀) :
    Number.readUnsigned 16 Number.maxUInt32 [d₃, d₂, d₁, d₀] = .ok unit := by
  have hd₃ := digit?_of_isHexDigit (by omega) h₃
  have hd₂ := digit?_of_isHexDigit (by omega) h₂
  have hd₁ := digit?_of_isHexDigit (by omega) h₁
  have hd₀ := digit?_of_isHexDigit (by omega) h₀
  have hm : Number.maxUInt32 = 4294967295 := rfl
  have hs : d₃ ≠ '+' := ne_of_digit? hd₃ rfl
  rw [Number.readUnsigned, readDigits_cons hd₃ (by omega), readDigits_cons hd₂ (by omega),
    readDigits_cons hd₁ (by omega), readDigits_cons hd₀ (by omega), Number.readDigits]
  · congr 1
    omega
  · simp
  · simp [hs]

lemma unicodeEscape_of_digits {c d₃ d₂ d₁ d₀ : Char} (hc : c.toNat ≤ 0xFFFF)
    (h₃ : IsHexDigit (c.toNat / 4096) d₃) (h₂ : IsHexDigit (c.toNat / 256 % 16) d₂)
    (h₁ : IsHexDigit (c.toNat / 16 % 16) d₁) (h₀ : IsHexDigit (c.toNat % 16) d₀) :
    unicodeEscape [d₃, d₂, d₁, d₀] = [c] := by
  rw [unicodeEscape, readUnsigned_of_digits hc h₃ h₂ h₁ h₀]
  simp [charOfNat?_toNat]

lemma literal?_plain {c : Char} (hq : c ≠ '"') (hb : c ≠ '\\') (rest : List Char) :
    literal? (c :: rest) = (literal? rest).map (c :: ·) := by
  rw [literal?]
  · exact hq
  · exact fun he => (hb he).elim
  · exact fun _ _ he => (hb he).elim

lemma literal?_digit {value : Nat} {digit : Char} (hv : value < 16) (h : IsHexDigit value digit)
    (rest : List Char) : literal? (digit :: rest) = (literal? rest).map (digit :: ·) := by
  have hd := digit?_of_isHexDigit hv h
  exact literal?_plain (ne_of_digit? hd rfl) (ne_of_digit? hd rfl) rest

lemma literal?_code {unit : Nat} {d₃ d₂ d₁ d₀ : Char} (hu : unit ≤ 0xFFFF)
    (h₃ : IsHexDigit (unit / 4096) d₃) (h₂ : IsHexDigit (unit / 256 % 16) d₂)
    (h₁ : IsHexDigit (unit / 16 % 16) d₁) (h₀ : IsHexDigit (unit % 16) d₀) (rest : List Char) :
    literal? (['\\', 'u', d₃, d₂, d₁, d₀] ++ rest) =
      (literal? rest).map (['\\', 'u', d₃, d₂, d₁, d₀] ++ ·) := by
  -- the digits are neither quotes nor backslashes, so they are taken one by one
  have hd : literal? (d₃ :: d₂ :: d₁ :: d₀ :: rest) =
      (literal? rest).map ([d₃, d₂, d₁, d₀] ++ ·) := by
    rw [literal?_digit (by omega) h₃, literal?_digit (by omega) h₂, literal?_digit (by omega) h₁,
      literal?_digit (by omega) h₀]
    simp only [Option.map_map]
    rfl
  simp only [List.cons_append, List.nil_append, literal?, hd, Option.map_map]
  rfl

lemma no_feed_code {unit : Nat} {d₃ d₂ d₁ d₀ : Char} (hu : unit ≤ 0xFFFF)
    (h₃ : IsHexDigit (unit / 4096) d₃) (h₂ : IsHexDigit (unit / 256 % 16) d₂)
    (h₁ : IsHexDigit (unit / 16 % 16) d₁) (h₀ : IsHexDigit (unit % 16) d₀) :
    '\n' ∉ ['\\', 'u', d₃, d₂, d₁, d₀] := by
  have hn : ∀ {value : Nat} {digit : Char}, value < 16 → IsHexDigit value digit → '\n' ≠ digit :=
    fun hv hd => (ne_of_digit? (digit?_of_isHexDigit hv hd) rfl).symm
  simp [hn (by omega) h₃, hn (by omega) h₂, hn (by omega) h₁, hn (by omega) h₀]

lemma Spells.literal? {c : Char} {written : List Char} (h : Spells c written) (rest : List Char) :
    Smali.literal? (written ++ rest) = (Smali.literal? rest).map (written ++ ·) := by
  cases h with
  | plain hq hb _ => exact literal?_plain hq hb rest
  | covered hc => simp [Smali.literal?]
  | feed => simp [Smali.literal?]
  | tab => simp [Smali.literal?]
  | carriage => simp [Smali.literal?]
  | code hc h₃ h₂ h₁ h₀ => exact literal?_code hc h₃ h₂ h₁ h₀ rest

lemma Spells.unescape {c : Char} {written : List Char} (h : Spells c written) (rest : List Char) :
    Smali.unescape (written ++ rest) = c :: Smali.unescape rest := by
  cases h with
  | plain hq hb _ => simp [Smali.unescape, hb]
  | covered hc =>
    simp only [List.mem_cons, List.not_mem_nil, or_false, not_or] at hc
    simp [Smali.unescape, hc]
  | feed => simp [Smali.unescape]
  | tab => simp [Smali.unescape]
  | carriage => simp [Smali.unescape]
  | code hc h₃ h₂ h₁ h₀ => simp [Smali.unescape, unicodeEscape_of_digits hc h₃ h₂ h₁ h₀]

lemma Spells.no_feed {c : Char} {written : List Char} (h : Spells c written) : '\n' ∉ written := by
  cases h with
  | plain _ _ hn => simpa using Ne.symm hn
  | covered hc =>
    simp only [List.mem_cons, List.not_mem_nil, or_false, not_or] at hc
    simp [Ne.symm hc.2.2.2.2]
  | feed => decide
  | tab => decide
  | carriage => decide
  | code hc h₃ h₂ h₁ h₀ => exact no_feed_code hc h₃ h₂ h₁ h₀

variable {value written : List Char}

lemma Spelled.literal? (h : Spelled value written) (rest : List Char) :
    Smali.literal? (written ++ '"' :: rest) = some written := by
  induction h with
  | nil => simp [Smali.literal?]
  | @cons c cs w ws hc _ ih => rw [List.append_assoc, hc.literal?, ih, Option.map_some]

lemma Spelled.unescape (h : Spelled value written) : Smali.unescape written = value := by
  induction h with
  | nil => simp [Smali.unescape]
  | cons hc _ ih => rw [hc.unescape, ih]

lemma Spelled.no_feed (h : Spelled value written) : '\n' ∉ written := by
  induction h with
  | nil => exact List.not_mem_nil
  | cons hc _ ih => exact List.not_mem_append hc.no_feed ih

lemma exists_spells (c : Char) : ∃ written, Spells c written := by
  by_cases hq : c = '"'
  · exact ⟨_, .covered (by subst hq; decide)⟩
  · by_cases hb : c = '\\'
    · exact ⟨_, .covered (by subst hb; decide)⟩
    · by_cases hn : c = '\n'
      · subst hn
        exact ⟨_, .feed⟩
      · exact ⟨_, .plain hq hb hn⟩

lemma exists_spelled (value : List Char) : ∃ written, Spelled value written := by
  induction value with
  | nil => exact ⟨_, .nil⟩
  | cons c value ih =>
    obtain ⟨written, hc⟩ := exists_spells c
    obtain ⟨rest, hr⟩ := ih
    exact ⟨_, .cons hc hr⟩

end ApkAudit.Smali
