import ApkAudit.Program.Arguments

/-!
What the program says about itself: its name and version, its usage, and why it refuses arguments.
-/

namespace ApkAudit.Program

def title : String := "APK Vectors 0.1.0"

def usage : List String := [
  "USAGE:",
  "    apk-vectors [FLAGS] [OPTIONS] <package>"]

def help : List String := [
  title,
  "Static analysis engine that detects package visibility and broadcast vectors in Android " ++
    "applications",
  ""] ++ usage ++ [
  "",
  "FLAGS:",
  "        --force           If you'd like to force the package decoding, even if it was decoded before",
  "    -h, --help            Prints help information",
  "    -j, --json            Generates the results in JSON format",
  "    -l, --list-vectors    Lists the tags of every available vector and exits",
  "    -p, --print           Prints the metadata and the findings on the terminal",
  "    -q, --quiet           If you'd like a zen analyzer that only prints warnings and errors",
  "    -V, --version         Prints version information",
  "    -v, --verbose         If you'd like the analyzer to tell you everything it does",
  "",
  "OPTIONS:",
  "        --apktool <APKTOOL>       Path to the apktool JAR file",
  "    -d, --debug-vector <TAG>      Only runs the vectors that report the given tag",
  "        --dist <DIST>             Folder where to store the decoded packages",
  "        --engine-build <BUILD>    Build number of the analysis engine, recorded in the report",
  "    -e, --exclude <PREFIX>...     Class or package prefix excluded from the code analysis, " ++
    "replaces the configured ones",
  "        --mode <MODE>             Analysis mode, recorded in the report",
  "        --results <RESULTS>       Folder where to store the results",
  "        --tag <TAG>               Tag recorded in the report to identify this round of analysis",
  "",
  "ARGS:",
  "    <package>    The package to analyze, a path to an APK file"]

def Refusal.message : Refusal → String
  | conflict => "The argument '--verbose' cannot be used with '--quiet'"
  | repeated => "An argument was provided more than once, but cannot be used multiple times"
  | unknown => "Found an argument which wasn't expected, or isn't valid in this context"
  | missingPackage => "The following required arguments were not provided: <package>"
  | missingValue => "An argument requires a value but none was supplied"
  | help => "Help was asked for"
  | version => "The version was asked for"

def Refusal.lines (refusal : Refusal) : List String :=
  let message := refusal.message
  [s!"error: {message}", ""] ++ usage ++ ["", "For more information try --help"]

end ApkAudit.Program
