import ApkAudit.Number.Numeral
import Mathlib.Tactic.Common

/-! Which texts are read as numbers: a sign that may be missing, decimal digits, and a value within
the bounds. -/

namespace ApkAudit.Number

def Spells (text : List Char) (n : Nat) : Prop :=
  ∃ sign digits, text = sign ++ digits ∧ (sign = [] ∨ sign = ['+']) ∧ digits ≠ [] ∧
    (∀ c ∈ digits, c.isDigit = true) ∧ Nat.ofDigitChars 10 digits 0 = n

def SpellsInt (text : List Char) (k : Int) : Prop :=
  (∃ n : Nat, Spells text n ∧ k = n) ∨
    ∃ digits, text = '-' :: digits ∧ digits ≠ [] ∧ (∀ c ∈ digits, c.isDigit = true) ∧
      k = -(Nat.ofDigitChars 10 digits 0 : Int)

lemma digit?_ten {c : Char} :
    digit? 10 c = if c.isDigit then some (c.toNat - '0'.toNat) else none := by
  unfold digit?
  dsimp only
  by_cases hd : c.isDigit = true
  · have hlt : c.toNat - '0'.toNat < 10 := by
      obtain ⟨-, hle⟩ := Char.isDigit_iff_toNat.mp hd
      have hzero : '0'.toNat = 48 := rfl
      have hnine : '9'.toNat = 57 := rfl
      omega
    rw [if_pos hd, if_pos hd, if_pos hlt]
  · -- a letter is worth ten or more, and all else counts as the radix
    rw [if_neg hd, if_neg hd, if_neg]
    split
    · omega
    · split <;> omega

lemma le_ofDigitChars (digits : List Char) (value : Nat) :
    value ≤ Nat.ofDigitChars 10 digits value := by
  induction digits generalizing value with
  | nil => exact Nat.le_refl value
  | cons c digits ih =>
    rw [Nat.ofDigitChars_cons]
    have h := ih (10 * value + (c.toNat - '0'.toNat))
    omega

lemma readDigits_eq_ok_iff {bound value n : Nat} (h : value ≤ bound) (digits : List Char) :
    readDigits 10 bound value digits = .ok n ↔
      (∀ c ∈ digits, c.isDigit = true) ∧ Nat.ofDigitChars 10 digits value = n ∧ n ≤ bound := by
  induction digits generalizing value with
  | nil =>
    simp only [readDigits, Nat.ofDigitChars_nil, Except.ok.injEq]
    constructor
    · rintro rfl
      exact ⟨nofun, rfl, h⟩
    · exact fun h => h.2.1
  | cons c digits ih =>
    rw [readDigits, digit?_ten, Nat.ofDigitChars_cons, List.forall_mem_cons]
    by_cases hd : c.isDigit = true
    · have hnext : value * 10 + (c.toNat - '0'.toNat) = 10 * value + (c.toNat - '0'.toNat) := by
        omega
      simp only [hd, if_true, true_and, hnext]
      split
      · next hle => exact ih hle
      · next hgt =>
        -- more digits never make the number smaller
        have hmore := le_ofDigitChars digits (10 * value + (c.toNat - '0'.toNat))
        constructor
        · exact nofun
        · rintro ⟨-, rfl, hle⟩
          omega
    · simp [hd]

lemma readUnsigned_eq_ok_iff {bound n : Nat} {text : List Char} :
    readUnsigned 10 bound text = .ok n ↔ Spells text n ∧ n ≤ bound := by
  have hplus : ¬ '+'.isDigit = true := by decide
  unfold readUnsigned
  split
  · constructor
    · exact nofun
    · rintro ⟨⟨sign, digits, ht, -, hne, -, -⟩, -⟩
      exact (hne (List.append_eq_nil_iff.mp ht.symm).2).elim
  · next c rest =>
    rw [readDigits_eq_ok_iff (Nat.zero_le _)]
    constructor
    · rintro ⟨hd, hn, hle⟩
      exact ⟨⟨['+'], c :: rest, rfl, Or.inr rfl, nofun, hd, hn⟩, hle⟩
    · rintro ⟨⟨sign, digits, ht, rfl | rfl, -, hd, hn⟩, hle⟩
      · -- the plus sign is no digit
        subst ht
        exact (hplus (hd '+' List.mem_cons_self)).elim
      · obtain rfl : c :: rest = digits := List.tail_eq_of_cons_eq ht
        exact ⟨hd, hn, hle⟩
  · next hne hsign =>
    rw [readDigits_eq_ok_iff (Nat.zero_le _)]
    constructor
    · rintro ⟨hd, hn, hle⟩
      exact ⟨⟨[], text, rfl, Or.inl rfl, hne, hd, hn⟩, hle⟩
    · rintro ⟨⟨sign, digits, ht, rfl | rfl, hnil, hd, hn⟩, hle⟩
      · rw [ht]
        exact ⟨hd, hn, hle⟩
      · obtain ⟨c, rest, rfl⟩ := List.exists_cons_of_ne_nil hnil
        exact (hsign c rest ht).elim

lemma readUInt32_eq_ok_iff {s : String} {n : Nat} :
    readUInt32 s = .ok n ↔ Spells s.toList n ∧ n < 0x100000000 := by
  have hbound : n ≤ maxUInt32 ↔ n < 0x100000000 := by
    have hm : maxUInt32 = 4294967295 := rfl
    omega
  rw [readUInt32, readUnsigned_eq_ok_iff, hbound]

lemma not_spells_minus (rest : List Char) (n : Nat) : ¬ Spells ('-' :: rest) n := by
  rintro ⟨sign, digits, ht, rfl | rfl, -, hd, -⟩
  · subst ht
    have hminus := hd '-' List.mem_cons_self
    revert hminus
    decide
  · cases ht

lemma readSigned_eq_ok_iff {bound : Nat} {text : List Char} {k : Int} :
    readSigned 10 bound text = .ok k ↔
      SpellsInt text k ∧ -((bound : Int) + 1) ≤ k ∧ k ≤ bound := by
  unfold readSigned
  split
  · next c rest =>
    have hread := fun n => readDigits_eq_ok_iff (n := n) (Nat.zero_le (bound + 1)) (c :: rest)
    constructor
    · intro h
      cases hd : readDigits 10 (bound + 1) 0 (c :: rest) with
      | error e =>
        rw [hd] at h
        cases e <;> cases h
      | ok n =>
        rw [hd] at h
        obtain rfl := Except.ok.inj h
        obtain ⟨hdigits, rfl, hle⟩ := (hread n).mp hd
        exact ⟨Or.inr ⟨c :: rest, rfl, nofun, hdigits, rfl⟩, by omega, by omega⟩
    · rintro ⟨⟨n, hs, -⟩ | ⟨digits, ht, -, hdigits, rfl⟩, hlow, -⟩
      · exact (not_spells_minus _ n hs).elim
      · obtain rfl : c :: rest = digits := List.tail_eq_of_cons_eq ht
        rw [(hread _).mpr ⟨hdigits, rfl, by omega⟩]
  · next hsign =>
    have hmap : (readUnsigned 10 bound text).map Int.ofNat = .ok k ↔
        ∃ n, readUnsigned 10 bound text = .ok n ∧ k = n := by
      cases readUnsigned 10 bound text with
      | error e => simp [Except.map]
      | ok n => simp [Except.map, eq_comm]
    rw [hmap]
    constructor
    · rintro ⟨n, hn, rfl⟩
      obtain ⟨hs, hle⟩ := readUnsigned_eq_ok_iff.mp hn
      exact ⟨Or.inl ⟨n, hs, rfl⟩, by omega, by omega⟩
    · rintro ⟨⟨n, hs, rfl⟩ | ⟨digits, rfl, hne, -, -⟩, -, hhigh⟩
      · exact ⟨n, readUnsigned_eq_ok_iff.mpr ⟨hs, by omega⟩, rfl⟩
      · obtain ⟨c, rest, rfl⟩ := List.exists_cons_of_ne_nil hne
        exact (hsign c rest rfl).elim

lemma readInt64_eq_ok_iff {s : String} {k : Int} :
    readInt64 s = .ok k ↔
      SpellsInt s.toList k ∧ -0x8000000000000000 ≤ k ∧ k ≤ 0x7FFFFFFFFFFFFFFF := by
  have hm : (maxInt64 : Int) = 0x7FFFFFFFFFFFFFFF := rfl
  rw [readInt64, readSigned_eq_ok_iff, hm]
  rfl

end ApkAudit.Number
