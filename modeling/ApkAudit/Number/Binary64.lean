/-!
Floating-point numbers of 64 bits, held as their bits: rounding of a ratio or a decimal to the
nearest one, and the decimal with the fewest digits that rounds back.
-/

namespace ApkAudit.Number

structure Binary64 where
  bits : UInt64
deriving DecidableEq, Repr

namespace Binary64

def signBit : Nat := Nat.pow 2 63
def hiddenBit : Nat := Nat.pow 2 52
def infinityBits : Nat := 0x7FF * hiddenBit

def leastUnit : Int := -1074

def ofMagnitude (negative : Bool) (magnitude : Nat) : Binary64 :=
  ⟨UInt64.ofNat (min magnitude infinityBits + if negative then signBit else 0)⟩

def infinity (negative : Bool) : Binary64 := ofMagnitude negative infinityBits

def notANumber : Binary64 := ⟨0x7FF8000000000000⟩

def isNegative (x : Binary64) : Bool := signBit ≤ x.bits.toNat
def magnitude (x : Binary64) : Nat := x.bits.toNat % signBit
def isFinite (x : Binary64) : Bool := x.magnitude < infinityBits
def isNaN (x : Binary64) : Bool := infinityBits < x.magnitude

/-- Whether two numbers are the same: the two zeros are, and so is whatever is no number. -/
def same (x y : Binary64) : Bool :=
  x = y || (x.isNaN && y.isNaN) || (x.magnitude = 0 && y.magnitude = 0)

def significand (x : Binary64) : Nat :=
  if x.magnitude < hiddenBit then x.magnitude else x.magnitude % hiddenBit + hiddenBit

def unit (x : Binary64) : Int :=
  if x.magnitude < hiddenBit then leastUnit else (x.magnitude / hiddenBit : Int) - 1 + leastUnit

def scaled (num den : Nat) (e : Int) : Nat × Nat :=
  if 0 ≤ e then (num, den * Nat.pow 2 e.toNat) else (num * Nat.pow 2 (-e).toNat, den)

def roundHalfEven (num den : Nat) : Nat :=
  let q := num / den
  let r := num % den
  if 2 * r < den then q
  else if den < 2 * r then q + 1
  else q + q % 2

def unitOf (num den : Nat) : Int :=
  let guess := (num.log2 : Int) - den.log2 - 52
  let (n, d) := scaled num den guess
  max leastUnit (if n / d < hiddenBit then guess - 1 else guess)

def ofRatio (negative : Bool) (num den : Nat) : Binary64 :=
  if num = 0 ∨ den = 0 then ofMagnitude negative 0
  else
    let e := unitOf num den
    let (n, d) := scaled num den e
    ofMagnitude negative ((e - leastUnit).toNat * hiddenBit + roundHalfEven n d)

/-- The number nearest to `digits * 10 ^ exponent`, with a sign.  Exponents so large or small that
the answer is infinity or zero are not expanded. -/
def ofDecimal (negative : Bool) (digits : Nat) (exponent : Int) : Binary64 :=
  let top : Int := exponent + (Nat.toDigits 10 digits).length
  if digits = 0 ∨ top < -400 then ofMagnitude negative 0
  else if 400 < top then ofMagnitude negative infinityBits
  else if 0 ≤ exponent then ofRatio negative (digits * Nat.pow 10 exponent.toNat) 1
  else ofRatio negative digits (Nat.pow 10 (-exponent).toNat)

structure Decimal where
  digits : Nat
  exponent : Int
deriving DecidableEq, Repr

def onGrid (num den : Nat) (e : Int) : Nat × Nat :=
  if 0 ≤ e then (num, den * Nat.pow 10 e.toNat) else (num * Nat.pow 10 (-e).toNat, den)

def decimalTop (num den : Nat) : Int :=
  let guess : Int := (Nat.toDigits 10 num).length - (Nat.toDigits 10 den).length
  let (n, d) := onGrid num den guess
  if n < d then guess else guess + 1

/-- The multiple of `10 ^ e` nearest to `value / den` among its two neighbours there, if it lies
between `low / den` and `high / den` (ends included when `closed`). -/
def nearestOnGrid? (low value high den : Nat) (closed : Bool) (e : Int) : Option Nat :=
  let (v, d) := onGrid value den e
  let (l, _) := onGrid low den e
  let (h, _) := onGrid high den e
  let inside (n : Nat) : Bool :=
    if closed then l ≤ n * d && n * d ≤ h else l < n * d && n * d < h
  let below := v / d
  let preferAbove := d < 2 * (v % d) ∨ (d = 2 * (v % d) ∧ below % 2 = 1)
  let first := if preferAbove then below + 1 else below
  let second := if preferAbove then below else below + 1
  if inside first then some first else if inside second then some second else none

def shortestFrom (low value high den : Nat) (closed : Bool) (e : Int) : Nat → Decimal
  | 0 => ⟨(onGrid value den e).1 / (onGrid value den e).2, e⟩
  | tries + 1 =>
    match nearestOnGrid? low value high den closed e with
    | some n => ⟨n, e⟩
    | none => shortestFrom low value high den closed (e - 1) tries

/-- The decimal of the fewest digits that rounds to the finite number `x`, the nearest such one;
the sign is left out. -/
def shortest (x : Binary64) : Decimal :=
  let m := x.significand
  if m = 0 then ⟨0, 0⟩
  else
    let u := x.unit - 2
    let grow (n : Nat) : Nat := if 0 ≤ u then n * Nat.pow 2 u.toNat else n
    let den := if 0 ≤ u then 1 else Nat.pow 2 (-u).toNat
    let value := grow (4 * m)
    let low := grow (if m = hiddenBit ∧ x.unit ≠ leastUnit then 4 * m - 1 else 4 * m - 2)
    let high := grow (4 * m + 2)
    shortestFrom low value high den (m % 2 = 0) (decimalTop value den) 18

def digitText (n : Nat) : List Char := Nat.toDigits 10 n

def positional (digits : List Char) (n : Int) : List Char :=
  if n ≤ 0 then '0' :: '.' :: (List.replicate (-n).toNat '0' ++ digits)
  else if digits.length ≤ n.toNat then
    digits ++ List.replicate (n.toNat - digits.length) '0' ++ ['.', '0']
  else digits.take n.toNat ++ '.' :: digits.drop n.toNat

def intText (n : Int) : List Char :=
  if n < 0 then '-' :: digitText (-n).toNat else digitText n.toNat

def scientific (plus digits : List Char) (n : Int) : List Char :=
  let mantissa :=
    match digits with
    | [] => ['0']
    | [d] => [d]
    | d :: rest => d :: '.' :: rest
  mantissa ++ 'e' :: ((if 1 ≤ n then plus else []) ++ intText (n - 1))

/-- The text of a finite number: shortest digits, positional from 1e-5 up to below 1e16, at least
one digit after the point.  Elsewhere `plus` stands before a positive exponent. -/
def text (x : Binary64) (plus : List Char) : String :=
  let sign := if x.isNegative then ['-'] else []
  let d := x.shortest
  let body :=
    if d.digits = 0 then ['0', '.', '0']
    else
      let digits := digitText d.digits
      let n : Int := digits.length + d.exponent
      if -5 < n ∧ n ≤ 16 then positional digits n else scientific plus digits n
  String.ofList (sign ++ body)

end Binary64

structure DecimalText where
  negative : Bool
  digits : Nat
  exponent : Int

def spanDigits (cs : List Char) : List Char × List Char :=
  (cs.takeWhile Char.isDigit, cs.dropWhile Char.isDigit)

def natOfDigits (cs : List Char) : Nat :=
  cs.foldl (fun n c => n * 10 + (c.toNat - '0'.toNat)) 0

def readExponent? : List Char → Option Int
  | '-' :: cs => if cs.isEmpty || !cs.all Char.isDigit then none else some (-(natOfDigits cs : Int))
  | '+' :: cs => if cs.isEmpty || !cs.all Char.isDigit then none else some (natOfDigits cs : Int)
  | cs => if cs.isEmpty || !cs.all Char.isDigit then none else some (natOfDigits cs : Int)

def readMagnitude? (negative : Bool) (cs : List Char) : Option DecimalText :=
  let (whole, rest) := spanDigits cs
  let (fraction, rest) :=
    match rest with
    | '.' :: more => spanDigits more
    | _ => ([], rest)
  if whole.isEmpty && fraction.isEmpty then none
  else
    let digits := natOfDigits (whole ++ fraction)
    match rest with
    | [] => some ⟨negative, digits, -(fraction.length : Int)⟩
    | 'e' :: more | 'E' :: more =>
      (readExponent? more).map fun e => ⟨negative, digits, e - fraction.length⟩
    | _ => none

def readDecimal? : List Char → Option DecimalText
  | '-' :: cs => readMagnitude? true cs
  | '+' :: cs => readMagnitude? false cs
  | cs => readMagnitude? false cs

def DecimalText.toBinary64 (d : DecimalText) : Binary64 :=
  Binary64.ofDecimal d.negative d.digits d.exponent

end ApkAudit.Number
