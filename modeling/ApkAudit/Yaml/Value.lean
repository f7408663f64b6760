import ApkAudit.Number.Binary64
import ApkAudit.Text.Lines
import ApkAudit.Text.Utf8
import ApkAudit.Yaml.Node

/-!
Values of YAML nodes under the core rules: what a plain scalar means, and what tags change.
-/

namespace ApkAudit.Yaml

inductive Value where
  | null
  | bool (b : Bool)
  | int (n : Int)
  | float (x : Number.Binary64)
  | string (s : String)
  | sequence (items : List Value)
  | mapping (pairs : List (Value × Value))
  | tagged (tag : String) (value : Value)

namespace Value

mutual

def same : Value → Value → Bool
  | null, null => true
  | bool a, bool b => a = b
  | int a, int b => a = b
  | float a, float b => a.same b
  | string a, string b => a = b
  | sequence a, sequence b => sameItems a b
  | mapping a, mapping b => a.length = b.length && samePairs a b
  | tagged t a, tagged u b => t = u && same a b
  | _, _ => false

def sameItems : List Value → List Value → Bool
  | [], [] => true
  | a :: as, b :: bs => same a b && sameItems as bs
  | _, _ => false

def samePairs : List (Value × Value) → List (Value × Value) → Bool
  | [], _ => true
  | (k, a) :: as, bs => (bs.any fun b => same k b.1 && same a b.2) && samePairs as bs

end

def isNull (text : String) : Bool :=
  ["null", "Null", "NULL", "~"].contains text

def readBool? (text : String) : Option Bool :=
  if ["true", "True", "TRUE"].contains text then some true
  else if ["false", "False", "FALSE"].contains text then some false
  else none

/-- Digits behind a leading zero: a text, not a number. -/
def isPaddedDigits (cs : List Char) : Bool :=
  let digits :=
    match cs with
    | '-' :: rest | '+' :: rest => rest
    | rest => rest
  2 ≤ digits.length && digits.head? = some '0' && digits.all Char.isDigit

def dropPlus : List Char → List Char
  | '+' :: rest => rest
  | cs => cs

def startsWithSign (cs : List Char) : Bool :=
  cs.head? = some '+' || cs.head? = some '-'

def radixes : List (List Char × Nat) := [(['0', 'x'], 16), (['0', 'o'], 8), (['0', 'b'], 2)]

def readUnsigned? (bound : Nat) (cs : List Char) : Option Nat :=
  let body := dropPlus cs
  let marked := radixes.findSome? fun (mark, radix) =>
    (Text.dropStart? mark body).map fun digits => (digits, radix)
  let inRadix :=
    match marked with
    | some (digits, radix) =>
      if startsWithSign digits then none
      else (Number.readUnsigned radix bound digits).toOption
    | none => none
  match inRadix with
  | some n => some n
  | none =>
    if startsWithSign body || isPaddedDigits cs then none
    else (Number.readUnsigned 10 bound body).toOption

def readNegative? (bound : Nat) (cs : List Char) : Option Int :=
  let marked := radixes.findSome? fun (mark, radix) =>
    (Text.dropStart? ('-' :: mark) cs).map fun digits => (digits, radix)
  let inRadix :=
    match marked with
    | some (digits, radix) => (Number.readSigned radix bound ('-' :: digits)).toOption
    | none => none
  match inRadix with
  | some n => some n
  | none => if isPaddedDigits cs then none else (Number.readSigned 10 bound cs).toOption

/-- An integer of 64 bits.  One of up to 128 bits is refused, and anything else is none. -/
def readInt? (cs : List Char) : Except Error (Option Int) :=
  match readUnsigned? Number.maxUInt64 cs, readNegative? Number.maxInt64 cs with
  | some n, _ => .ok (some n)
  | none, some n => .ok (some n)
  | none, none =>
    if (readUnsigned? Number.maxUInt128 cs).isSome ||
        (readNegative? Number.maxInt128 cs).isSome then
      .error (.wrongType "an integer of 64 bits")
    else .ok none

def readFloat? (text : String) : Option Number.Binary64 :=
  let cs := text.toList
  let body := dropPlus cs
  if cs.head? = some '+' && startsWithSign body then none
  else if [".inf", ".Inf", ".INF"].contains (String.ofList body) then some (.infinity false)
  else if ["-.inf", "-.Inf", "-.INF"].contains text then some (.infinity true)
  else if [".nan", ".NaN", ".NAN"].contains text then some .notANumber
  else
    match Number.readDecimal? body with
    | some d => if d.toBinary64.isFinite then some d.toBinary64 else none
    | none => none

def ofPlain (text : String) : Except Error Value :=
  if text = "" || isNull text then .ok .null
  else
    match readBool? text with
    | some b => .ok (.bool b)
    | none => do
      match ← readInt? text.toList with
      | some n => return .int n
      | none =>
        if isPaddedDigits text.toList then return .string text
        match readFloat? text with
        | some x => return .float x
        | none => return .string text

def coreTag (name : String) : Tag := Parse.coreTags ++ name.toUTF8.toList

def dropBang : Tag → Tag
  | b :: c :: rest => if b = Scan.bang then c :: rest else b :: c :: rest
  | tag => tag

/-- The name of a tag of the document's own, which begins with an exclamation mark.  Whether there
is another one behind it makes no difference. -/
def localTag? (tag : Tag) : Option String :=
  if tag.head? = some Scan.bang then Text.decodeUtf8? ⟨(dropBang (dropBang tag)).toArray⟩ else none

/-- What a scalar means.  The tags of the core rules ask for a kind of value. -/
def ofScalar (tag : Option Tag) (isPlain : Bool) (text : String) : Except Error Value :=
  let untagged := if isPlain then ofPlain text else .ok (.string text)
  match tag, tag.bind localTag? with
  | none, _ => untagged
  | some _, some name => untagged.map (.tagged name)
  | some tag, none =>
    if tag = coreTag "bool" then
      match readBool? text with
      | some b => .ok (.bool b)
      | none => .error (.wrongType "a boolean")
    else if tag = coreTag "int" then do
      match ← readInt? text.toList with
      | some n => return .int n
      | none => .error (.wrongType "an integer")
    else if tag = coreTag "float" then
      match readFloat? text with
      | some x => .ok (.float x)
      | none => .error (.wrongType "a float")
    else if tag = coreTag "null" then
      if isNull text then .ok .null else .error (.wrongType "null")
    else if tag.head? = some Scan.bang then untagged
    else .ok (.string text)

def underTag (tag : Option Tag) (value : Value) : Value :=
  match tag.bind localTag? with
  | some name => .tagged name value
  | none => value

def text? : Value → Option String
  | .string s => some s
  | .int n => some (String.ofList (Number.Binary64.intText n))
  | .bool b => some (if b then "true" else "false")
  | .float x =>
    if x.isNaN then some ".nan"
    else if x.isFinite then some (x.text [])
    else some (if x.isNegative then "-.inf" else ".inf")
  | _ => none

end Value

abbrev Visit := StateT Nat (Except Error)

namespace Document

def fail {α : Type} (e : Error) : Visit α := fun _ => .error e

def maxDepth : Nat := 128

/-- How many aliases may be followed: a hundred for each step of the document. -/
def maxFollowed (d : Document) : Nat :=
  100 * (d.root.map Node.steps).getD 0

def follow (d : Document) (node : Node) : Visit Node := do
  match node with
  | .alias anchor =>
    let followed ← get
    if d.maxFollowed ≤ followed then fail .repetition
    set (followed + 1)
    match d.anchored.lookup anchor with
    | some node => return node
    | none => fail (.unknownAnchor "")
  | node => return node

def addPair (pairs : List (Value × Value)) (key value : Value) : Visit (List (Value × Value)) :=
  if pairs.any fun other => other.1.same key then fail (.repeatedKey "")
  else return pairs ++ [(key, value)]

def value (d : Document) : Nat → Node → Visit Value
  | depth, node => do
    match ← d.follow node, depth with
    | .scalar tag isPlain text, _ => Value.ofScalar tag isPlain text
    | .sequence tag items, depth + 1 =>
      return Value.underTag tag (.sequence (← items.mapM (d.value depth)))
    | .mapping tag pairs, depth + 1 =>
      let add (found : List (Value × Value)) (pair : Node × Node) := do
        addPair found (← d.value depth pair.1) (← d.value depth pair.2)
      return Value.underTag tag (.mapping (← pairs.foldlM add []))
    | _, _ => fail .recursion

def present? (d : Document) (node : Node) : Visit (Option Node) := do
  let node ← d.follow node
  match node with
  | .scalar tag true text =>
    if tag = some (Value.coreTag "null") then
      if Value.isNull text then return none else fail (.wrongType "null")
    else if tag.isSome then return some node
    else return if text = "" || Value.isNull text then none else some node
  | _ => return some node

def keyText (d : Document) (node : Node) : Visit String := do
  match ← d.follow node with
  | .scalar _ _ text => return text
  | _ => fail (.wrongType "a string")

/-- The pairs of a mapping by the texts of their keys.  A plain scalar without text has none. -/
def fields (d : Document) (node : Node) : Visit (List (String × Node)) := do
  match ← d.follow node with
  | .mapping _ pairs => pairs.mapM fun (key, value) => do return (← d.keyText key, value)
  | .scalar _ true "" => return []
  | _ => fail (.wrongType "a mapping")

def field? (d : Document) (name : String) (fields : List (String × Node)) :
    Visit (Option Node) := do
  match fields.filter fun f => f.1 = name with
  | [] => return none
  | [(_, node)] => d.present? node
  | _ :: _ :: _ => fail (.repeatedKey name)

end Document

end ApkAudit.Yaml
