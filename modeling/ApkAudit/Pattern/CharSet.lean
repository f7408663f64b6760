import ApkAudit.Text.Blank
import ApkAudit.Text.Case
import ApkAudit.Text.Category
import ApkAudit.Text.Digit
import ApkAudit.Text.Word

/-!
Sets of characters, as patterns describe them.
-/

namespace ApkAudit

inductive CharSet where
  | nothing
  | range (first last : Nat)
  | ranges (list : List (Nat × Nat))
  | table (t : Text.CodeTable)
  | blank
  | digit
  | word
  | cased
  | other (s : CharSet)
  | folded (s : CharSet)
  | union (s t : CharSet)
  | inter (s t : CharSet)
  | minus (s t : CharSet)
  | apart (s t : CharSet)
deriving DecidableEq, Repr

namespace CharSet

def has : CharSet → Char → Bool
  | nothing, _ => false
  | range first last, c => first ≤ c.toNat && c.toNat ≤ last
  | ranges list, c => list.any fun r => r.1 ≤ c.toNat && c.toNat ≤ r.2
  | table t, c => t.has c.toNat
  | blank, c => Text.isBlank c
  | digit, c => Text.isDecimal c
  | word, c => Text.isWord c
  | cased, c => 1 < (Text.caseForms c).length
  | other s, c => !s.has c
  | folded s, c => (Text.caseForms c).any s.has
  | union s t, c => s.has c || t.has c
  | inter s t, c => s.has c && t.has c
  | minus s t, c => s.has c && !t.has c
  | apart s t, c => s.has c != t.has c

def single (c : Char) : CharSet :=
  range c.toNat c.toNat

def any : CharSet := range 0 0x10FFFF

def negateIf (negated : Bool) (s : CharSet) : CharSet :=
  if negated then other s else s

/-! Sets of ASCII characters -/

def asciiBlank : CharSet := ranges [(0x9, 0xD), (0x20, 0x20)]

def asciiDigit : CharSet := range 0x30 0x39

def asciiUpper : CharSet := range 0x41 0x5A

def asciiLower : CharSet := range 0x61 0x7A

def asciiLetter : CharSet := union asciiUpper asciiLower

def asciiWord : CharSet := ranges [(0x30, 0x39), (0x41, 0x5A), (0x5F, 0x5F), (0x61, 0x7A)]

def named? : String → Option CharSet
  | "alnum" => some (union asciiDigit asciiLetter)
  | "alpha" => some asciiLetter
  | "ascii" => some (range 0x0 0x7F)
  | "blank" => some (ranges [(0x9, 0x9), (0x20, 0x20)])
  | "cntrl" => some (ranges [(0x0, 0x1F), (0x7F, 0x7F)])
  | "digit" => some asciiDigit
  | "graph" => some (range 0x21 0x7E)
  | "lower" => some asciiLower
  | "print" => some (range 0x20 0x7E)
  | "punct" => some (ranges [(0x21, 0x2F), (0x3A, 0x40), (0x5B, 0x60), (0x7B, 0x7E)])
  | "space" => some asciiBlank
  | "upper" => some asciiUpper
  | "word" => some asciiWord
  | "xdigit" => some (ranges [(0x30, 0x39), (0x41, 0x46), (0x61, 0x66)])
  | _ => none

/-! How large a set is for a matcher -/

/-- The bytes that a matcher of encoded text needs, about, to tell the members of a set. -/
def weight : CharSet → Nat
  | nothing => 32
  | range _ last => if last < 0x80 then 32 else 400
  | ranges list => 60 * list.length
  | table t => 60 * (t.ranges.length + 10 * t.seconds.length)
  | blank => 60 * Text.blankRanges.length
  | digit => 60 * Text.zeros.length
  | word => 60 * Text.wordRanges.length
  | cased => 60 * Text.caseRuns.length
  | other s => s.weight + 400
  | folded s => 2 * s.weight
  | union s t => s.weight + t.weight
  | inter s t => s.weight + t.weight
  | minus s t => s.weight + t.weight
  | apart s t => s.weight + t.weight

end CharSet

end ApkAudit
