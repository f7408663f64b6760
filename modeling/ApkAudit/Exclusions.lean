import ApkAudit.Code.Method
import ApkAudit.Text.Blank
import ApkAudit.Text.Lines

/-!
Exclusions: packages of well-known libraries whose code is left out of the findings.
-/

namespace ApkAudit

structure Exclusions where
  packages : List String := []
deriving DecidableEq, Repr

namespace Exclusions

def dropEnd (p : Char → Bool) (cs : List Char) : List Char :=
  (cs.reverse.dropWhile p).reverse

def normalizeChars (name : List Char) : List Char :=
  let name := Text.trimChars name
  let name :=
    if name.head? = some 'L' ∧ ('/' ∈ name ∨ name.getLast? = some ';') then name.tail else name
  let dotted := (dropEnd (· = ';') name).map fun c => if c = '/' then '.' else c
  dropEnd (· = '.') dotted

def normalize (name : String) : String :=
  String.ofList (normalizeChars name.toList)

def ofPatterns (patterns : List String) : Exclusions where
  packages := (patterns.map normalize).filter (· ≠ "")

def defaultPatterns : List String :=
  ["android.support", "androidx", "com.actionbarsherlock", "org.apache", "com.google.android.gms",
    "com.google.firebase", "com.facebook", "com.crashlytics", "com.flurry", "com.parse"]

/-- A package covers the names that go on with a dot or a dollar sign, and itself. -/
def covers (package name : List Char) : Bool :=
  match Text.dropStart? package name with
  | none => false
  | some [] => true
  | some (c :: _) => c = '.' || c = '$'

def excludes (exclusions : Exclusions) (name : String) : Bool :=
  exclusions.packages.any fun package => covers package.toList (normalizeChars name.toList)

def keepClasses (exclusions : Exclusions) (names : List String) : List String :=
  names.filter fun name => !exclusions.excludes name

def keepMethods (exclusions : Exclusions) (methods : List Method) : List Method :=
  methods.filter fun m => !exclusions.excludes m.className

def keepCalls (exclusions : Exclusions) (calls : List CallSite) : List CallSite :=
  calls.filter fun call => !exclusions.excludes call.caller.className

def keepReads (exclusions : Exclusions) (reads : List StringRead) : List StringRead :=
  reads.filter fun read => !exclusions.excludes read.reader.className

end Exclusions

end ApkAudit
