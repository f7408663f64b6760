import ApkAudit.Yaml.Scanner

/-!
Documents of YAML text as trees of nodes.  An alias stays a leaf of the tree: the node that it
stands for may come behind it or around it.
-/

namespace ApkAudit.Yaml

inductive Node where
  | scalar (tag : Option Tag) (isPlain : Bool) (text : String)
  | sequence (tag : Option Tag) (items : List Node)
  | mapping (tag : Option Tag) (pairs : List (Node × Node))
  | alias (anchor : Nat)
deriving Inhabited

mutual

def Node.steps : Node → Nat
  | .scalar _ _ _ => 1
  | .sequence _ items => 2 + itemSteps items
  | .mapping _ pairs => 2 + pairSteps pairs
  | .alias _ => 1

def itemSteps : List Node → Nat
  | [] => 0
  | item :: rest => item.steps + itemSteps rest

def pairSteps : List (Node × Node) → Nat
  | [] => 0
  | (key, value) :: rest => key.steps + value.steps + pairSteps rest

end

structure Parser where
  rest : List Token
  anchors : List (String × Nat) := []
  /-- The places of the nodes that the numbers of anchors stand for, the latest first. -/
  places : List (Nat × Nat) := []
  nodes : List (Nat × Node) := []
  nextPlace : Nat := 0
  handles : List (String × Tag) := []

abbrev Parse := StateT Parser (Except Error)

namespace Parse

def fail {α : Type} (e : Error) : Parse α := fun _ => .error e

def peek : Parse (Option Token) := do
  return (← get).rest.head?

def skip : Parse Unit :=
  modify fun p => { p with rest := p.rest.tail }

def ahead (ts : List Token) : Parse Bool := do
  return ((← peek).map ts.contains).getD true

def expect (t : Token) : Parse Unit := do
  if (← peek) = some t then skip else fail .unexpectedToken

def emptyNode : Node := .scalar none true ""

def coreTags : Tag := "tag:yaml.org,2002:".toUTF8.toList

def resolveTag (handle : String) (suffix : Tag) : Parse Tag := do
  if handle = "" then return suffix
  match (← get).handles.lookup handle with
  | some start => return start ++ suffix
  | none =>
    if handle = "!" then return Scan.bang :: suffix
    else if handle = "!!" then return coreTags ++ suffix
    else fail (.unknownHandle handle)

def properties : Parse (Option String × Option Tag) := do
  let anchor? : Parse (Option String) := do
    match ← peek with
    | some (.anchor name) =>
      skip
      return some name
    | _ => return none
  let tag? : Parse (Option Tag) := do
    match ← peek with
    | some (.tag handle suffix) =>
      skip
      return some (← resolveTag handle suffix)
    | _ => return none
  match ← anchor? with
  | some name => return (some name, ← tag?)
  | none =>
    match ← tag? with
    | some tag => return (← anchor?, some tag)
    | none => return (none, none)

/-- A node that a name will stand for is announced before it is read.  The number of an anchor is
the number of names so far, so that a name that comes again takes the number of the next one. -/
def announce (name : Option String) : Parse (Option Nat) := do
  match name with
  | none => return none
  | some name =>
    let p ← get
    let anchor := p.anchors.length
    set { p with
      anchors := (name, anchor) :: p.anchors.filter fun a => a.1 ≠ name
      places := (anchor, p.nextPlace) :: p.places
      nextPlace := p.nextPlace + 1 }
    return some p.nextPlace

def complete (place : Option Nat) (node : Node) : Parse Node := do
  match place with
  | none => return node
  | some place =>
    modify fun p => { p with nodes := (place, node) :: p.nodes }
    return node

def aliased (name : String) : Parse Node := do
  match (← get).anchors.lookup name with
  | none => fail (.unknownAnchor name)
  | some anchor => return .alias anchor

def entryEnds : List Token := [.dash, .blockEnd]
def indentlessEnds : List Token := [.dash, .key, .value, .blockEnd]
def pairEnds : List Token := [.key, .value, .blockEnd]

mutual

/-- A node.  Inside brackets there are no blocks; as a value of a mapping, a list may stand without
indentation. -/
def node (block indentless : Bool) (fuel : Nat) : Parse Node := do
  match fuel with
  | 0 => fail .recursion
  | fuel + 1 =>
    match ← peek with
    | some (.alias name) =>
      skip
      aliased name
    | _ =>
      let (name, tag) ← properties
      let place ← announce name
      let bare := name.isNone && tag.isNone
      content block indentless bare tag fuel >>= complete place

def content (block indentless bare : Bool) (tag : Option Tag) (fuel : Nat) : Parse Node := do
  match fuel with
  | 0 => fail .recursion
  | fuel + 1 =>
    match ← peek with
    | some .dash =>
      if indentless then return .sequence tag (← indentlessItems fuel)
      else if bare then fail .unexpectedToken
      else return .scalar tag true ""
    | some (.scalar text isPlain) =>
      skip
      return .scalar tag isPlain text
    | some .openBracket =>
      skip
      return .sequence tag (← flowItems true fuel)
    | some .openBrace =>
      skip
      return .mapping tag (← flowPairs true fuel)
    | some .blockSequence =>
      if block then
        skip
        return .sequence tag (← blockItems fuel)
      else if bare then fail .unexpectedToken
      else return .scalar tag true ""
    | some .blockMapping =>
      if block then
        skip
        return .mapping tag (← blockPairs fuel)
      else if bare then fail .unexpectedToken
      else return .scalar tag true ""
    | _ => if bare then fail .unexpectedToken else return .scalar tag true ""

def blockItems (fuel : Nat) : Parse (List Node) := do
  match fuel with
  | 0 => fail .recursion
  | fuel + 1 =>
    match ← peek with
    | some .dash =>
      skip
      let item ← if ← ahead entryEnds then pure emptyNode else node true false fuel
      return item :: (← blockItems fuel)
    | _ =>
      expect .blockEnd
      return []

def indentlessItems (fuel : Nat) : Parse (List Node) := do
  match fuel with
  | 0 => fail .recursion
  | fuel + 1 =>
    match ← peek with
    | some .dash =>
      skip
      let item ← if ← ahead indentlessEnds then pure emptyNode else node true false fuel
      return item :: (← indentlessItems fuel)
    | _ => return []

def blockPairs (fuel : Nat) : Parse (List (Node × Node)) := do
  match fuel with
  | 0 => fail .recursion
  | fuel + 1 =>
    match ← peek with
    | some .key =>
      skip
      let key ← if ← ahead pairEnds then pure emptyNode else node true true fuel
      let value ← blockValue fuel
      return (key, value) :: (← blockPairs fuel)
    | _ =>
      expect .blockEnd
      return []

def blockValue (fuel : Nat) : Parse Node := do
  match fuel with
  | 0 => fail .recursion
  | fuel + 1 =>
    if (← peek) = some .value then
      skip
      if ← ahead pairEnds then return emptyNode else node true true fuel
    else return emptyNode

def flowItems (isFirst : Bool) (fuel : Nat) : Parse (List Node) := do
  match fuel with
  | 0 => fail .recursion
  | fuel + 1 =>
    if (← peek) = some .closeBracket then
      skip
      return []
    else
      if !isFirst then expect .comma
      match ← peek with
      | some .closeBracket =>
        skip
        return []
      | some .key =>
        skip
        let pair ← flowPair fuel
        return .mapping none [pair] :: (← flowItems false fuel)
      | _ =>
        let item ← node false false fuel
        return item :: (← flowItems false fuel)

/-- A single pair inside a list.  Where its key is missing, the token there is passed over. -/
def flowPair (fuel : Nat) : Parse (Node × Node) := do
  match fuel with
  | 0 => fail .recursion
  | fuel + 1 =>
    let key ←
      if ← ahead [.value, .comma, .closeBracket] then do
        skip
        pure emptyNode
      else node false false fuel
    let value ← flowValue .closeBracket fuel
    return (key, value)

def flowValue (close : Token) (fuel : Nat) : Parse Node := do
  match fuel with
  | 0 => fail .recursion
  | fuel + 1 =>
    if (← peek) = some .value then
      skip
      if ← ahead [.comma, close] then return emptyNode else node false false fuel
    else return emptyNode

def flowPairs (isFirst : Bool) (fuel : Nat) : Parse (List (Node × Node)) := do
  match fuel with
  | 0 => fail .recursion
  | fuel + 1 =>
    if (← peek) = some .closeBrace then
      skip
      return []
    else
      if !isFirst then expect .comma
      match ← peek with
      | some .closeBrace =>
        skip
        return []
      | some .key =>
        skip
        let key ←
          if ← ahead [.value, .comma, .closeBrace] then pure emptyNode else node false false fuel
        let value ← flowValue .closeBrace fuel
        return (key, value) :: (← flowPairs false fuel)
      | _ =>
        let key ← node false false fuel
        return (key, emptyNode) :: (← flowPairs false fuel)

end

def isDirective : Token → Bool
  | .version _ _ | .tagHandle _ _ => true
  | _ => false

def directives (versionSeen : Bool) (fuel : Nat) : Parse Unit := do
  match fuel with
  | 0 => return
  | fuel + 1 =>
    match ← peek with
    | some (.version major minor) =>
      if versionSeen || major ≠ 1 || (minor ≠ 1 && minor ≠ 2) then fail .badDirective
      skip
      directives true fuel
    | some (.tagHandle handle start) =>
      if ((← get).handles.lookup handle).isSome then fail .badDirective
      modify fun p => { p with handles := (handle, start) :: p.handles }
      skip
      directives versionSeen fuel
    | _ => return

def explicitContent (fuel : Nat) : Parse Node := do
  match ← peek with
  | none | some .documentStart | some .documentEnd => return emptyNode
  | some t => if isDirective t then return emptyNode else node true false fuel

def firstDocument (fuel : Nat) : Parse (Option Node) := do
  match ← peek with
  | none => return none
  | some t =>
    if isDirective t || t = .documentStart then
      directives false fuel
      expect .documentStart
      return some (← explicitContent fuel)
    else return some (← node true false fuel)

def skipDocumentEnds : List Token → List Token
  | .documentEnd :: rest => skipDocumentEnds rest
  | rest => rest

end Parse

structure Document where
  root : Option Node := none
  anchored : List (Nat × Node) := []

/-- Of the nodes with one number the latest counts, also for an alias before it. -/
def Parser.anchored (p : Parser) : List (Nat × Node) :=
  p.places.filterMap fun (anchor, place) => (p.nodes.lookup place).map fun node => (anchor, node)

def document (text : List Char) : Except Error Document := do
  let tokens ← tokens text
  let (found, p) ← (Parse.firstDocument (4 * tokens.length + 4)).run { rest := tokens }
  match found, Parse.skipDocumentEnds p.rest with
  | none, _ => return {}
  | some node, [] => return { root := some node, anchored := p.anchored }
  | some _, _ :: _ => .error .severalDocuments

end ApkAudit.Yaml
