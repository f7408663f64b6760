import ApkAudit.Archive.Record

/-!
ZIP archives: the list of entries in the central directory, and whether each of them can be opened.
Contents are never unpacked.
-/

namespace ApkAudit.Archive.Zip

inductive Problem where
  | noDirectory
  | truncated
  | severalDisks
  | misplacedDirectory
  | badEntry
  | badContent
  | encrypted
  | unknownMethod (method : Nat)
deriving DecidableEq, Repr

def Problem.message : Problem → String
  | noDirectory => "invalid Zip archive: no central directory"
  | truncated => "failed to fill whole buffer"
  | severalDisks => "unsupported Zip archive: several disks"
  | misplacedDirectory => "invalid Zip archive: misplaced central directory"
  | badEntry => "invalid Zip archive: bad central directory entry"
  | badContent => "invalid Zip archive: bad local file header"
  | encrypted => "unsupported Zip archive: password required"
  | unknownMethod method => s!"unsupported Zip archive: compression method {method}"

def endMark : Nat := 0x06054b50
def wideEndMark : Nat := 0x06064b50
def wideLocatorMark : Nat := 0x07064b50
def entryMark : Nat := 0x02014b50
def contentMark : Nat := 0x04034b50

def widened : Nat := 0xFFFFFFFF

def endLength : Nat := 22
def entryLength : Nat := 46
def maxComment : Nat := 65535

def need (content : ByteArray) (position width : Nat) : Except Problem Nat :=
  match number? content position width with
  | some n => .ok n
  | none => .error .truncated

def findEnd (content : ByteArray) : Nat → Nat → Option Nat
  | position, 0 => if number? content position 4 = some endMark then some position else none
  | position, tries + 1 =>
    if number? content position 4 = some endMark then some position
    else if position = 0 then none
    else findEnd content (position - 1) tries

def findWideEnd (content : ByteArray) (position last : Nat) : Except Problem Nat :=
  if last < position then .error .noDirectory
  else
    match number? content position 4 with
    | none => .error .truncated
    | some mark =>
      if mark = wideEndMark then .ok position else findWideEnd content (position + 1) last
termination_by last + 1 - position

structure Directory where
  offset : Nat
  start : Nat
  count : Nat
deriving DecidableEq, Repr

/-- The directory that the wider end record describes.  Places in a file have 63 bits. -/
def wideDirectory (content : ByteArray) (ending locator disk : Nat) : Except Problem Directory := do
  if (← need content (locator + 4) 4) ≠ disk then throw .severalDisks
  let nominal ← need content (locator + 8) 8
  let _ ← need content (locator + 16) 4
  if ending < 60 then throw .noDirectory
  let position ← findWideEnd content nominal (ending - 60)
  let disk ← need content (position + 16) 4
  let directoryDisk ← need content (position + 20) 4
  let count ← need content (position + 32) 8
  let start ← need content (position + 48) 8
  if disk ≠ directoryDisk then throw .severalDisks
  let offset := position - nominal
  if Nat.pow 2 63 ≤ start + offset then throw .misplacedDirectory
  return { offset := offset, start := start + offset, count := count }

def plainDirectory (content : ByteArray) (ending : Nat) : Except Problem Directory := do
  let count ← need content (ending + 8) 2
  let size ← need content (ending + 12) 4
  let start ← need content (ending + 16) 4
  if ending < size + start then throw .misplacedDirectory
  let offset := ending - size - start
  return { offset := offset, start := start + offset, count := count }

def locator? (content : ByteArray) (comment : Nat) : Option Nat :=
  let back := 20 + endLength + comment
  if content.size < back then none
  else
    let position := content.size - back
    if number? content position 4 = some wideLocatorMark then some position else none

def directory (content : ByteArray) : Except Problem Directory := do
  if content.size < endLength then throw .noDirectory
  match findEnd content (content.size - endLength) maxComment with
  | none => throw .noDirectory
  | some ending =>
    let disk ← need content (ending + 4) 2
    let directoryDisk ← need content (ending + 6) 2
    let comment ← need content (ending + 20) 2
    if !holds content (ending + endLength) comment then throw .truncated
    if disk ≠ directoryDisk then throw .severalDisks
    match locator? content comment with
    | some locator => wideDirectory content ending locator disk
    | none => plainDirectory content ending

structure Entry where
  name : List UInt8
  flags : Nat
  method : Nat
  place : Nat
deriving DecidableEq, Repr

structure Measures where
  unpacked : Nat
  packed : Nat
  place : Nat
deriving DecidableEq, Repr

def widen? (extra : ByteArray) (value position : Nat) : Option (Nat × Nat) :=
  if value = widened then (number? extra position 8).map fun wide => (wide, position + 8)
  else some (value, position)

def Measures.widen? (extra : ByteArray) (m : Measures) (position : Nat) :
    Option (Measures × Nat) := do
  let (unpacked, position) ← Zip.widen? extra m.unpacked position
  let (packed, position) ← Zip.widen? extra m.packed position
  let (place, position) ← Zip.widen? extra m.place position
  return (⟨unpacked, packed, place⟩, position)

/-- The place of an entry's content after all of its extra fields.  A field of kind 1 holds wider
numbers, also those that lie behind its stated length; the fields end where one is cut off. -/
def extraPlace (extra : ByteArray) (m : Measures) (position : Nat) : Nat → Nat
  | 0 => m.place
  | fuel + 1 =>
    match number? extra position 2, number? extra (position + 2) 2 with
    | some 1, some length =>
      match m.widen? extra (position + 4) with
      | some (m, after) => extraPlace extra m (max after (position + 4 + length)) fuel
      | none => m.place
    | some _, some length => extraPlace extra m (position + 4 + length) fuel
    | _, _ => m.place

def entry (content : ByteArray) (offset position : Nat) : Except Problem (Entry × Nat) := do
  if (← need content position 4) ≠ entryMark then throw .badEntry
  let flags ← need content (position + 8) 2
  let method ← need content (position + 10) 2
  let packed ← need content (position + 20) 4
  let unpacked ← need content (position + 24) 4
  let nameLength ← need content (position + 28) 2
  let extraLength ← need content (position + 30) 2
  let commentLength ← need content (position + 32) 2
  let place ← need content (position + 42) 4
  let body := position + entryLength
  let next := body + nameLength + extraLength + commentLength
  match bytes? content body nameLength with
  | none => throw .truncated
  | some name =>
    if content.size < next then throw .truncated
    let extra := content.extract (body + nameLength) (body + nameLength + extraLength)
    let place := extraPlace extra ⟨unpacked, packed, place⟩ 0 (extraLength + 1)
    return ({ name := name, flags := flags, method := method, place := place + offset }, next)

def entries (content : ByteArray) (offset : Nat) : Nat → Nat → Except Problem (List Entry)
  | 0, _ => .ok []
  | count + 1, position => do
    let (e, next) ← entry content offset position
    return e :: (← entries content offset count next)

/-- An entry can be opened if it is not encrypted, its content has a header, and its method is
known: stored, deflated, or compressed by blocks. -/
def Entry.check (content : ByteArray) (e : Entry) : Except Problem Unit := do
  if e.flags % 2 = 1 then throw .encrypted
  if (← need content e.place 4) ≠ contentMark then throw .badContent
  let _ ← need content (e.place + 26) 4
  if e.method ∉ [0, 8, 12] then throw (.unknownMethod e.method)

def names (content : ByteArray) : Except Problem (List (List UInt8)) := do
  let d ← directory content
  let all ← entries content d.offset d.count d.start
  all.forM (Entry.check content)
  return all.map Entry.name

end ApkAudit.Archive.Zip
