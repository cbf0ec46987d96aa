/-
# The command line

What the program does for its arguments where there is no terminal: a report is printed, and a
viewer cannot be opened, although the settings are loaded for it first.

`CommandLine.run` gives what is printed, the exit code, and the files afterwards.
-/
import LineSearch.Arguments
import LineSearch.Report
import LineSearch.Settings.Files

namespace LineSearch.CommandLine

/-- What the program finds: files, and the directories that the user chose. -/
structure Surroundings where
  files : Files
  settingsHome : Option Text
  home : Option Text

/-- What the program leaves. -/
structure Outcome where
  code : Nat
  output : Text
  /-- What is printed for the user only. -/
  message : Text
  files : Files

/-- The text that explains the arguments. -/
def helpText : Text :=
  ("Incremental multi-term search in a single document\n\n" ++
    "FILE           the file to open\n" ++
    "--word WORD    open with the search already running on this word\n" ++
    "--query QUERY  print the matches for this query and exit\n" ++
    "--json         with --query, print one JSON object per match\n" ++
    "--debug        keep a log\n" ++
    "--help         print this text\n").toList

/-- Opens the file with the given name.  A name with a slash at its end, and the name of a
directory, is not that of a file. -/
def openDocument? (files : Files) (name : Text) : Option Document :=
  match (name.splitWhere (· == '/')).getLast? with
  | some [] | some ['.'] => none
  | _ => (files.content? (Path.ofText name)).map (Document.ofFile name)

/-- Prints the report of a query. -/
def report [Regex.Engine] (s : Surroundings) (file query : Text) (json : Bool) : Outcome :=
  match openDocument? s.files file with
  | none => ⟨1, [], "the file cannot be opened: ".toList ++ file, s.files⟩
  | some d => ⟨0, Report.render (if json then .json else .plain) d query, [], s.files⟩

/-- Loads the settings for a viewer and opens the file; then it ends, for want of a terminal. -/
def view [Data.Reader] (s : Surroundings) (file : Text) : Outcome :=
  let (_, files) := Settings.load s.settingsHome s.home s.files
  match openDocument? s.files file with
  | none => ⟨1, [], "the file cannot be opened: ".toList ++ file, files⟩
  | some _ => ⟨1, [], "there is no terminal".toList, files⟩

/-- What the program does for its arguments. -/
def run [Regex.Engine] [Data.Reader] (s : Surroundings) (args : List Text) : Outcome :=
  match Request.parse args with
  | .error f => ⟨2, [], f.message, s.files⟩
  | .ok .help => ⟨0, helpText, [], s.files⟩
  | .ok (.report file query json) => report s file query json
  | .ok (.view file _) => view s file

end LineSearch.CommandLine
