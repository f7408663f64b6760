import ApkAudit.Toml.Value

/-!
TOML documents: members at the top, and tables under headers.
-/

namespace ApkAudit.Toml

structure Block where
  path : List String
  isElement : Bool
  members : Members

structure Document where
  members : Members := []
  blocks : List Block := []

def endLine (tokens : List Token) : Except Error (List Token) :=
  match skipBlanks tokens with
  | [] => .ok []
  | .newline :: rest => .ok rest
  | .comment :: .newline :: rest => .ok rest
  | [.comment] => .ok []
  | _ => .error .unexpectedToken

def readHeader (tokens : List Token) : Except Error (List String × Bool × List Token) := do
  let (isElement, tokens) :=
    match tokens with
    | .openBracket :: rest => (true, rest)
    | _ => (false, tokens)
  match isElement, ← key (skipBlanks tokens) with
  | false, (path, .closeBracket :: rest) => return (path, false, ← endLine rest)
  | true, (path, .closeBracket :: .closeBracket :: rest) => return (path, true, ← endLine rest)
  | _, _ => throw .unexpectedToken

structure Progress where
  done : List Block := []
  current : Block := ⟨[], false, []⟩

namespace Progress

def start (path : List String) (isElement : Bool) (p : Progress) : Progress :=
  { done := p.current :: p.done, current := ⟨path, isElement, []⟩ }

def add (path : List String) (value : Value) (p : Progress) : Except Error Progress := do
  let members ← Members.add value path p.current.members
  return { p with current := { p.current with members := members } }

def document (p : Progress) : Document :=
  match (p.current :: p.done).reverse with
  | [] => {}
  | top :: blocks => { members := top.members, blocks := blocks }

end Progress

def readLines : Nat → Progress → List Token → Except Error Progress
  | 0, _, _ => .error .unexpectedToken
  | fuel + 1, p, tokens =>
    match skipSpace tokens with
    | [] => .ok p
    | .openBracket :: rest => do
      let (path, isElement, rest) ← readHeader rest
      readLines fuel (p.start path isElement) rest
    | tokens => do
      let (path, rest) ← keyAndEquals tokens
      let (item, rest) ← readValue rest
      let rest ← endLine rest
      readLines fuel (← p.add path item) rest

/-! Tables under headers

The headers of a document are visited in the order of the tree that they describe: a table with all
that lies in it, then the next one that has not been visited. -/

structure Headers where
  blocks : Array Block
  visited : Array Bool

namespace Headers

def path (h : Headers) (i : Nat) : List String :=
  (h.blocks[i]?.map Block.path).getD []

def isElement (h : Headers) (i : Nat) : Bool :=
  (h.blocks[i]?.map Block.isElement).getD false

def visit (h : Headers) (i : Nat) : Headers :=
  { h with visited := h.visited.setIfInBounds i true }

def next? (h : Headers) (start stop : Nat) (path : List String) : Option Nat :=
  (List.range' start (stop - start)).find? fun i =>
    h.visited[i]? = some false && path.isPrefixOf (h.path i)

def nextElement (h : Headers) (parent stop : Nat) : Nat :=
  ((List.range' (parent + 1) (stop - (parent + 1))).find? fun i =>
    h.isElement i && h.path i = h.path parent).getD stop

end Headers

mutual

/-- Visits the headers of a table, from the header at `current` to the one before `stop`; they agree
with the header at `parent` to a depth.  No header comes twice, and none is an array and a table. -/
def visitTable (fuel depth parent current stop : Nat) (h : Headers) : Except Error Headers :=
  match fuel with
  | 0 => .ok h
  | fuel + 1 =>
    if parent = stop then .ok h
    else
      match h.next? current stop ((h.path parent).take depth) with
      | none => .ok h
      | some i =>
        let path := h.path i
        if parent ≠ i && h.path parent = path then .error (.duplicateTable path)
        else
          let parent := if path.length < (h.path parent).length then i else parent
          if depth ≠ path.length then do
            let h ←
              if h.isElement i && depth + 1 = path.length then visitArray fuel depth i stop h
              else visitTable fuel (depth + 1) i 0 stop h
            visitTable fuel depth parent (i + 1) stop h
          else if h.isElement i then .error (.tableBeforeArray path)
          else visitTable fuel depth parent i stop (h.visit i)

def visitArray (fuel depth parent stop : Nat) (h : Headers) : Except Error Headers :=
  match fuel with
  | 0 => .ok h
  | fuel + 1 =>
    if parent = stop then .ok h
    else do
      let next := h.nextElement parent stop
      let h ← visitTable fuel (depth + 1) parent 0 next (h.visit parent)
      visitArray fuel depth next stop h

end

/-- Visits all headers.  A table is entered for every part of a header at most, and each of its
steps visits a header or leaves it behind. -/
def Document.checkHeaders (d : Document) : Except Error Unit := do
  let blocks := (⟨[], false, []⟩ :: d.blocks).toArray
  let longest := d.blocks.foldl (fun n block => max n block.path.length) 0
  let fuel := (2 * blocks.size + 4) * (2 * longest + 4)
  let start : Headers := { blocks := blocks, visited := blocks.map fun _ => false }
  let _ ← visitTable fuel 0 0 0 blocks.size start

def Document.read (text : String) : Except Error Document := do
  let tokens ← Token.tokens text
  let p ← readLines (tokens.length + 1) {} tokens
  p.document.checkHeaders
  return p.document

end ApkAudit.Toml
