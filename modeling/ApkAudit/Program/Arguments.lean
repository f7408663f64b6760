/-!
The arguments of the program: switches, parameters with a value, and the package to scan.
-/

namespace ApkAudit.Program

inductive Switch where
  | verbose
  | quiet
  | force
  | list
  | print
  | json
  | help
  | version
deriving DecidableEq, Repr

inductive Parameter where
  | debugTag
  | exclude
  | results
  | dist
  | tool
  | tag
  | engineBuild
  | mode
deriving DecidableEq, Repr

inductive Refusal where
  | conflict
  | repeated
  | unknown
  | missingPackage
  | missingValue
  | help
  | version
deriving DecidableEq, Repr

def Switch.ofLong? : String → Option Switch
  | "verbose" => some verbose
  | "quiet" => some quiet
  | "force" => some force
  | "list-vectors" => some list
  | "print" => some print
  | "json" => some json
  | "help" => some help
  | "version" => some version
  | _ => none

def Switch.ofShort? : Char → Option Switch
  | 'v' => some verbose
  | 'q' => some quiet
  | 'l' => some list
  | 'p' => some print
  | 'j' => some json
  | 'h' => some help
  | 'V' => some version
  | _ => none

def Parameter.ofLong? : String → Option Parameter
  | "debug-vector" => some debugTag
  | "exclude" => some exclude
  | "results" => some results
  | "dist" => some dist
  | "apktool" => some tool
  | "tag" => some tag
  | "engine-build" => some engineBuild
  | "mode" => some mode
  | _ => none

def Parameter.ofShort? : Char → Option Parameter
  | 'd' => some debugTag
  | 'e' => some exclude
  | _ => none

/-- What has been read: switches and parameters in the order of their use, the values so far, the
package, a parameter that waits for its value, and whether only packages may follow. -/
structure Reading where
  switches : List Switch := []
  uses : List Parameter := []
  values : List (Parameter × String) := []
  package : Option String := none
  pending : Option Parameter := none
  plainOnly : Bool := false
deriving DecidableEq, Repr

namespace Reading

/-- Notes a switch.  Asking for help or the version ends the reading at once. -/
def switch (r : Reading) : Switch → Except Refusal Reading
  | .help => .error .help
  | .version => .error .version
  | s => .ok { r with switches := r.switches ++ [s], pending := none }

/-- Notes a parameter, with the text right behind it.  Without such a text it waits for a value;
equals signs in front of the text do not count. -/
def parameter (r : Reading) (p : Parameter) (behind : List Char) : Reading :=
  let r := { r with uses := r.uses ++ [p] }
  if behind.isEmpty then { r with pending := some p }
  else
    { r with
      values := r.values ++ [(p, String.ofList (behind.dropWhile (· = '=')))]
      pending := none }

/-- Reads an argument with two dashes.  A switch may have a value, which does not count. -/
def long (r : Reading) (argument : List Char) : Except Refusal Reading :=
  let body := argument.dropWhile (· = '-')
  let name := String.ofList (body.takeWhile (· ≠ '='))
  match Parameter.ofLong? name with
  | some p => .ok (r.parameter p (body.dropWhile (· ≠ '=')))
  | none =>
    match Switch.ofLong? name with
    | some s => r.switch s
    | none => .error .unknown

def letters (r : Reading) : List Char → Except Refusal Reading
  | [] => .ok r
  | c :: rest =>
    match Parameter.ofShort? c with
    | some p => .ok (r.parameter p rest)
    | none =>
      match Switch.ofShort? c with
      | some s => do letters (← r.switch s) rest
      | none => .error .unknown

def plain (r : Reading) (argument : String) : Except Refusal Reading :=
  match r.plainOnly, r.pending with
  | false, some p => .ok { r with values := r.values ++ [(p, argument)], pending := none }
  | _, _ =>
    match r.package with
    | some _ => .error .unknown
    | none => .ok { r with package := some argument }

def read (r : Reading) (argument : String) : Except Refusal Reading :=
  if r.plainOnly then r.plain argument
  else
    match argument.toList with
    | ['-', '-'] => .ok { r with plainOnly := true }
    | '-' :: '-' :: rest => r.long ('-' :: '-' :: rest)
    | '-' :: c :: rest => r.letters (c :: rest)
    | _ => r.plain argument

def has (r : Reading) (s : Switch) : Bool :=
  s ∈ r.switches

def value? (r : Reading) (p : Parameter) : Option String :=
  r.values.lookup p

def lacksPackage (r : Reading) : Bool :=
  r.package.isNone && !r.has .list

def lacksValue (r : Reading) : Bool :=
  r.uses.any fun p => (r.value? p).isNone

def repeats (r : Reading) : Bool :=
  !r.switches.Nodup || !(r.uses.filter (· ≠ .exclude)).Nodup

/-- Why the arguments are refused, if they are: a last parameter without a value comes first. -/
def refusal? (r : Reading) : Option Refusal :=
  if r.pending.isSome && r.lacksPackage then some .missingPackage
  else if r.pending.any fun p => (r.value? p).isNone then some .missingValue
  else if r.has .verbose && r.has .quiet then some .conflict
  else if r.lacksPackage then some .missingPackage
  else if r.lacksValue then some .missingValue
  else if r.repeats then some .repeated
  else none

end Reading

structure Arguments where
  package : Option String := none
  verbose : Bool := false
  quiet : Bool := false
  force : Bool := false
  list : Bool := false
  print : Bool := false
  json : Bool := false
  results : Option String := none
  dist : Option String := none
  tool : Option String := none
  mode : Option String := none
  engineBuild : Option String := none
  tag : Option String := none
  debugTag : Option String := none
  exclusions : List String := []
deriving DecidableEq, Repr

namespace Arguments

def ofReading (r : Reading) : Arguments where
  package := r.package
  verbose := r.has .verbose
  quiet := r.has .quiet
  force := r.has .force
  list := r.has .list
  print := r.has .print
  json := r.has .json
  results := r.value? .results
  dist := r.value? .dist
  tool := r.value? .tool
  mode := r.value? .mode
  engineBuild := r.value? .engineBuild
  tag := r.value? .tag
  debugTag := r.value? .debugTag
  exclusions := (r.values.filter fun v => v.1 = .exclude).map Prod.snd

def parse (arguments : List String) : Except Refusal Arguments := do
  let r ← arguments.foldlM Reading.read {}
  match r.refusal? with
  | some refusal => throw refusal
  | none => return ofReading r

end Arguments

end ApkAudit.Program
