import ApkAudit.Log
import ApkAudit.Pattern.Reader
import ApkAudit.Text.Blank
import ApkAudit.Text.Lines

/-!
Which messages of the log are shown: by their source, their severity and their text, as a
specification or the settings say.
-/

namespace ApkAudit.Program

structure LogRule where
  name : String := ""
  rank : Nat
deriving DecidableEq, Repr

structure LogFilter where
  rules : List LogRule
  sought : Option Pattern := none
deriving DecidableEq, Repr

namespace LogFilter

def maxRank : Nat := 5

def rankOf? (word : String) : Option Nat :=
  ["off", "error", "warn", "info", "debug", "trace"].findIdx? (· == Text.lower word)

def ignored (text : String) : String :=
  s!"warning: invalid logging spec '{text}', ignoring it"

/-- Reads one rule: a rank, a name, or both around an equals sign.  A malformed one gives a
warning. -/
def rule (text : String) : Except String LogRule :=
  match Text.split '=' text with
  | [word] =>
    match rankOf? word with
    | some rank => .ok { rank := rank }
    | none => .ok { name := word, rank := maxRank }
  | [name, word] =>
    let word := Text.trim word
    if word = "" then .ok { name := name, rank := maxRank }
    else
      match rankOf? word with
      | some rank => .ok { name := name, rank := rank }
      | none => .error (ignored word)
  | _ => .error (ignored text)

def rulesOf (text : String) : List LogRule × List String :=
  let read := ((Text.split ',' text).filter (· ≠ "")).map rule
  (read.filterMap Except.toOption,
    read.filterMap fun
      | .ok _ => none
      | .error warning => some warning)

def ofRules (rules : List LogRule) (sought : Option Pattern) : LogFilter :=
  ⟨if rules.isEmpty then [{ rank := Severity.error.rank }] else rules, sought⟩

/-- Reads the pattern to look for.  A malformed one gives a warning, and nothing is looked for. -/
def soughtOf (text : String) : Option Pattern × List String :=
  match Pattern.ofText text.toList with
  | .ok p => (some p, [])
  | .error refusal =>
    (none, ["warning: invalid regex filter - " ++
      String.intercalate "\n" (refusal.report text.toList)])

/-- Reads a specification: rules between commas, and after a slash a pattern to look for.  Malformed
parts give warnings. -/
def ofSpec (spec : String) : LogFilter × List String :=
  match Text.split '/' spec with
  | [] => (ofRules [] none, [])
  | [rules] => (ofRules (rulesOf rules).1 none, (rulesOf rules).2)
  | [rules, sought] =>
    (ofRules (rulesOf rules).1 (soughtOf sought).1, (rulesOf rules).2 ++ (soughtOf sought).2)
  | _ => (ofRules [] none, [ignored spec ++ " (too many '/'s)"])

def ofVerbosity (verbose : Bool) : LogFilter :=
  { rules := [{
      name := LogSource.program.path
      rank := if verbose then Severity.debug.rank else Severity.info.rank }] }

/-- The rule for a source: the one with the longest name, and the last of those. -/
def ruleFor? (filter : LogFilter) (source : String) : Option LogRule :=
  (filter.rules.filter fun r =>
      (Text.dropStart? r.name.toList source.toList).isSome).foldl
    (fun best r =>
      match best with
      | some b => if b.name.utf8ByteSize ≤ r.name.utf8ByteSize then some r else best
      | none => some r)
    none

def shows (filter : LogFilter) (line : LogLine) : Bool :=
  ((filter.ruleFor? line.source.path).any fun r => line.severity.rank ≤ r.rank) &&
    filter.sought.all (·.isFoundIn line.message.toList)

end LogFilter

def LogFilter.lineText (line : LogLine) : String :=
  let message := line.message
  match line.severity with
  | .error => s!"Error: {message}"
  | .warning => s!"Warning: {message}"
  | .info => message
  | .debug => s!"Debug: {message}"

def LogFilter.lines (filter : LogFilter) (log : List LogLine) : List String :=
  (log.filter filter.shows).map lineText

end ApkAudit.Program
