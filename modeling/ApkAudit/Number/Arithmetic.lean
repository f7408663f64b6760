import ApkAudit.Number.Binary64

/-!
Products and quotients of finite floating-point numbers, rounded once.
-/

namespace ApkAudit.Number.Binary64

def ratio (x : Binary64) : Nat × Nat :=
  if 0 ≤ x.unit then (x.significand * Nat.pow 2 x.unit.toNat, 1)
  else (x.significand, Nat.pow 2 (-x.unit).toNat)

def mul (x y : Binary64) : Binary64 :=
  ofRatio (x.isNegative != y.isNegative) (x.ratio.1 * y.ratio.1) (x.ratio.2 * y.ratio.2)

def div (x y : Binary64) : Binary64 :=
  ofRatio (x.isNegative != y.isNegative) (x.ratio.1 * y.ratio.2) (x.ratio.2 * y.ratio.1)

def ofNat (negative : Bool) (n : Nat) : Binary64 :=
  ofRatio negative n 1

def powerOfTen (n : Nat) : Binary64 :=
  ofNat false (Nat.pow 10 n)

end ApkAudit.Number.Binary64
