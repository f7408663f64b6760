import ApkAudit.Json.Value
import ApkAudit.Number.Arithmetic
import ApkAudit.Number.Numeral

/-!
Numbers in JSON text.

Whole numbers that fit into 64 bits are exact.  Of any other number, the digits that fit into 64
bits are rounded to a floating-point number, which is then multiplied or divided by a power of ten:
such a number may be off by a unit in its last place.
-/

namespace ApkAudit.Json

open Number (Binary64)

/-- Digits read as far as they fit into 64 bits, and the power of ten they are to be multiplied
with. -/
structure Scaled where
  digits : Nat := 0
  exponent : Int := 0

namespace Scaled

def push? (s : Scaled) (c : Char) : Option Nat :=
  let digits := 10 * s.digits + (c.toNat - 0x30)
  if digits ≤ Number.maxUInt64 then some digits else none

/-- The digits before the point: those that do not fit count as zeros. -/
def whole (s : Scaled) : List Char → Scaled
  | [] => s
  | c :: rest =>
    match s.push? c with
    | some digits => { s with digits := digits }.whole rest
    | none => { s with exponent := s.exponent + (rest.length + 1) }

/-- The digits after the point: those that do not fit are left out. -/
def fraction (s : Scaled) : List Char → Scaled
  | [] => s
  | c :: rest =>
    match s.push? c with
    | some digits => Scaled.fraction { digits := digits, exponent := s.exponent - 1 } rest
    | none => s

def maxPower : Nat := 308

def divided (x : Binary64) (power : Nat) : Binary64 :=
  if power ≤ maxPower then x.div (.powerOfTen power)
  else if x.magnitude = 0 then x
  else divided (x.div (.powerOfTen maxPower)) (power - maxPower)
termination_by power
decreasing_by simp only [maxPower] at *; omega

def value? (s : Scaled) (negative : Bool) : Option Binary64 :=
  let x := Binary64.ofNat negative s.digits
  if s.exponent < 0 then some (divided x (-s.exponent).toNat)
  else if s.digits = 0 then some x
  else if maxPower < s.exponent.toNat then none
  else
    let y := x.mul (.powerOfTen s.exponent.toNat)
    if y.isFinite then some y else none

end Scaled

/-- A whole number: exact where it fits, and there is no whole number for a zero with a sign. -/
def ofWhole? (negative : Bool) (digits : List Char) : Option Json :=
  let n := Number.natOfDigits digits
  if negative then
    if 0 < n && n ≤ Number.maxInt64 + 1 then some (.int (-n))
    else (({} : Scaled).whole digits |>.value? true).map .float
  else if n ≤ Number.maxUInt64 then some (.int n)
  else (({} : Scaled).whole digits |>.value? false).map .float

def exponent? : List Char → Option Int
  | '+' :: digits => unsigned digits
  | '-' :: digits => (unsigned digits).map (-·)
  | digits => unsigned digits
where
  unsigned (digits : List Char) : Option Int :=
    if digits.isEmpty || !digits.all Char.isDigit then none else some (Number.natOfDigits digits)

def ofMagnitude? (negative : Bool) (text : List Char) : Option Json := do
  let (digits, rest) := Number.spanDigits text
  if digits.isEmpty || (digits.head? == some '0' && digits.length ≠ 1) then none
  else
    let start := ({} : Scaled).whole digits
    match rest with
    | [] => ofWhole? negative digits
    | '.' :: rest =>
      let (fraction, rest) := Number.spanDigits rest
      let scaled := start.fraction fraction
      if fraction.isEmpty then none
      else if rest.isEmpty then (scaled.value? negative).map .float
      else raised scaled rest
    | _ => raised start rest
where
  raised (s : Scaled) : List Char → Option Json
    | 'e' :: rest | 'E' :: rest => do
      let e ← exponent? rest
      let x ← { s with exponent := s.exponent + e }.value? negative
      return .float x
    | _ => none

def ofNumber? : List Char → Option Json
  | '-' :: text => ofMagnitude? true text
  | text => ofMagnitude? false text

end ApkAudit.Json
