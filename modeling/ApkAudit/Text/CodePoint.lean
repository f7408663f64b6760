/-!
Characters by their code points.
-/

namespace ApkAudit.Text

/-- The character with a code point; surrogates and numbers above the last one have none. -/
def charOfNat? (n : Nat) : Option Char :=
  if h : n.isValidChar then some ⟨n.toUInt32, by
    simpa [UInt32.isValidChar, Nat.toUInt32, UInt32.toNat_ofNat_of_lt' (Nat.lt_trans
      (show n < 0x110000 by rcases h with h | h <;> omega) (by decide))] using h⟩ else none

theorem charOfNat?_toNat (c : Char) : charOfNat? c.toNat = some c := by
  have hv : c.toNat.isValidChar := c.valid
  simp only [charOfNat?, hv, dite_true, Option.some.injEq]
  exact Char.ext (UInt32.ofNat_toNat)

end ApkAudit.Text
