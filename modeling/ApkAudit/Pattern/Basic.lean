import ApkAudit.Pattern.CharSet

/-!
Patterns, and the texts in which they are found.

A pattern is run on all places of a text at once: from the places where its match may begin it gives
the places where such a match may end.  Places are given as a list of truth values, one for each
character of the text and one for its end.
-/

namespace ApkAudit

inductive WordEdge where
  | either
  | neither
  | start
  | stop
  | startHalf
  | stopHalf
deriving DecidableEq, Repr

inductive Look where
  | textStart
  | textEnd
  /-- The start of a line; lines may also end at a carriage return. -/
  | lineStart (returns : Bool)
  | lineEnd (returns : Bool)
  | word (letters : CharSet) (edge : WordEdge)
deriving DecidableEq, Repr

inductive Pattern where
  | empty
  | one (set : CharSet)
  | look (l : Look)
  | cat (p q : Pattern)
  | alt (p q : Pattern)
  | times (p : Pattern) (least : Nat) (most : Option Nat)
deriving DecidableEq, Repr

def WordEdge.holds : WordEdge → Bool → Bool → Bool
  | either, before, after => before != after
  | neither, before, after => before == after
  | start, before, after => !before && after
  | stop, before, after => before && !after
  | startHalf, before, _ => !before
  | stopHalf, _, after => !after

def Look.holds : Look → Option Char → Option Char → Bool
  | textStart, before, _ => before.isNone
  | textEnd, _, after => after.isNone
  | lineStart false, before, _ => before.isNone || before == some '\n'
  | lineStart true, before, after =>
    before.isNone || before == some '\n' || (before == some '\r' && after != some '\n')
  | lineEnd false, _, after => after.isNone || after == some '\n'
  | lineEnd true, before, after =>
    after.isNone || after == some '\r' || (after == some '\n' && before != some '\r')
  | word letters edge, before, after => edge.holds (before.any letters.has) (after.any letters.has)

namespace Pattern

def seams (before : Option Char) : List Char → List (Option Char × Option Char)
  | [] => [(before, none)]
  | c :: rest => (before, some c) :: seams (some c) rest

def join (a b : List Bool) : List Bool :=
  List.zipWith (· || ·) a b

def iterate (step : List Bool → List Bool) : Nat → List Bool → List Bool
  | 0, places => places
  | n + 1, places => if step places = places then places else iterate step n (step places)

/-- The places where a match ends that begins at one of the given places.  More repetitions than the
text has characters reach nothing new. -/
def ends (text : List Char) : Pattern → List Bool → List Bool
  | empty, places => places
  | one set, places => false :: List.zipWith (fun place c => place && set.has c) places text
  | look l, places =>
    List.zipWith (fun place (seam : Option Char × Option Char) => place && l.holds seam.1 seam.2)
      places (seams none text)
  | cat p q, places => q.ends text (p.ends text places)
  | alt p q, places => join (p.ends text places) (q.ends text places)
  | times p least most, places =>
    let more := most.elim text.length fun most => min (most - least) text.length
    iterate (fun reached => join reached (p.ends text reached)) more
      (iterate (p.ends text) (min least (text.length + 1)) places)

def isFoundIn (p : Pattern) (text : List Char) : Bool :=
  (p.ends text (List.replicate (text.length + 1) true)).contains true

/-- The bytes that a matcher for the pattern needs, about. -/
def weight : Pattern → Nat
  | empty => 32
  | one set => set.weight
  | look _ => 32
  | cat p q => p.weight + q.weight
  | alt p q => p.weight + q.weight + 40
  | times p least none => (least + 1) * (p.weight + 40)
  | times p least (some most) => least * p.weight + (most - least) * (p.weight + 40)

end Pattern

end ApkAudit
