/-!
Character classes of XML documents.
-/

namespace ApkAudit.Xml

def isSpace (c : Char) : Bool :=
  c = ' ' || c = '\t' || c = '\n' || c = '\r'

def within (low high : Nat) (c : Char) : Bool :=
  low ≤ c.toNat && c.toNat ≤ high

def isNameStart (c : Char) : Bool :=
  c.isAlpha || c = '_' || c = ':' ||
    [(0xC0, 0xD6), (0xD8, 0xF6), (0xF8, 0x2FF), (0x370, 0x37D), (0x37F, 0x1FFF), (0x200C, 0x200D),
      (0x2070, 0x218F), (0x2C00, 0x2FEF), (0x3001, 0xD7FF), (0xF900, 0xFDCF), (0xFDF0, 0xFFFD),
      (0x10000, 0xEFFFF)].any fun r => within r.1 r.2 c

def isNameChar (c : Char) : Bool :=
  isNameStart c || c.isDigit || c = '-' || c = '.' || c.toNat = 0xB7 ||
    within 0x300 0x36F c || within 0x203F 0x2040 c

inductive Version where
  | v10
  | v11
deriving DecidableEq, Repr

def Version.allows (v : Version) (c : Char) : Bool :=
  match v with
  | .v10 => isSpace c || within 0x20 0xFFFD c || 0x10000 ≤ c.toNat
  | .v11 => within 0x1 0xFFFD c || 0x10000 ≤ c.toNat

def Version.allowsPlain (v : Version) (c : Char) : Bool :=
  match v with
  | .v10 => v.allows c
  | .v11 =>
    v.allows c && (isSpace c || !(within 0x1 0x1F c || within 0x7F 0x84 c || within 0x86 0x9F c))

end ApkAudit.Xml
