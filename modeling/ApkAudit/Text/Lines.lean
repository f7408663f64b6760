/-!
Lines and searching in lists of characters.
-/

namespace ApkAudit.Text

def dropReturn (line : List Char) : List Char :=
  if line.getLast? = some '\r' then line.dropLast else line

/-- Lines from the characters of the current one (in reverse) and the rest of the text.  A last
line without a line feed keeps its carriage return, and an empty one is no line. -/
def linesFrom (current : List Char) : List Char → List (List Char)
  | [] => if current.isEmpty then [] else [current.reverse]
  | '\n' :: rest => dropReturn current.reverse :: linesFrom [] rest
  | c :: rest => linesFrom (c :: current) rest

/-- The lines of a text.  A line ends at a line feed, with one carriage return before it. -/
def lines (cs : List Char) : List (List Char) :=
  linesFrom [] cs

def splitChar (sep : Char) : List Char → List (List Char)
  | [] => [[]]
  | c :: rest =>
    if c = sep then [] :: splitChar sep rest
    else
      match splitChar sep rest with
      | [] => [[c]]
      | piece :: pieces => (c :: piece) :: pieces

def split (sep : Char) (s : String) : List String :=
  (splitChar sep s.toList).map String.ofList

def dropStart? (start text : List Char) : Option (List Char) :=
  match start, text with
  | [], rest => some rest
  | _ :: _, [] => none
  | a :: start, b :: text => if a = b then dropStart? start text else none

def breakOn? (needle : List Char) : List Char → Option (List Char × List Char)
  | [] => if needle.isEmpty then some ([], []) else none
  | c :: rest =>
    match dropStart? needle (c :: rest) with
    | some after => some ([], after)
    | none => (breakOn? needle rest).map fun (before, after) => (c :: before, after)

def lower (s : String) : String :=
  String.ofList (s.toList.map Char.toLower)

end ApkAudit.Text
