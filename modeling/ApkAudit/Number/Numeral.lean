/-!
Integers written in text, with a bound on their value: an optional sign, then digits only.
-/

namespace ApkAudit.Number

inductive Problem where
  | empty
  | invalidDigit
  | tooLarge
  | tooSmall
deriving DecidableEq, Repr

def Problem.message : Problem → String
  | .empty => "cannot parse integer from empty string"
  | .invalidDigit => "invalid digit found in string"
  | .tooLarge => "number too large to fit in target type"
  | .tooSmall => "number too small to fit in target type"

def digit? (radix : Nat) (c : Char) : Option Nat :=
  let value :=
    if c.isDigit then c.toNat - '0'.toNat
    else if 'a' ≤ c ∧ c ≤ 'f' then c.toNat - 'a'.toNat + 10
    else if 'A' ≤ c ∧ c ≤ 'F' then c.toNat - 'A'.toNat + 10
    else radix
  if value < radix then some value else none

/-- Reads digits behind a value; the first digit that is none or leads above the bound decides. -/
def readDigits (radix bound : Nat) (value : Nat) : List Char → Except Problem Nat
  | [] => .ok value
  | c :: rest =>
    match digit? radix c with
    | none => .error .invalidDigit
    | some d =>
      let next := value * radix + d
      if next ≤ bound then readDigits radix bound next rest else .error .tooLarge

def readUnsigned (radix bound : Nat) : List Char → Except Problem Nat
  | [] => .error .empty
  | '+' :: c :: rest => readDigits radix bound 0 (c :: rest)
  | cs => readDigits radix bound 0 cs

def readSigned (radix bound : Nat) : List Char → Except Problem Int
  | '-' :: c :: rest =>
    match readDigits radix (bound + 1) 0 (c :: rest) with
    | .ok n => .ok (-(n : Int))
    | .error .tooLarge => .error .tooSmall
    | .error e => .error e
  | cs => (readUnsigned radix bound cs).map Int.ofNat

def maxUInt32 : Nat := Nat.pow 2 32 - 1
def maxUInt64 : Nat := Nat.pow 2 64 - 1
def maxUInt128 : Nat := Nat.pow 2 128 - 1
def maxInt64 : Nat := Nat.pow 2 63 - 1
def maxInt128 : Nat := Nat.pow 2 127 - 1

def readUInt32 (s : String) : Except Problem Nat :=
  readUnsigned 10 maxUInt32 s.toList

def readInt64 (s : String) : Except Problem Int :=
  readSigned 10 maxInt64 s.toList

end ApkAudit.Number
