import TreeQuery.Command.Request
import TreeQuery.Document.Load
import TreeQuery.Document.Reader
import TreeQuery.Pattern.Basic
import TreeQuery.Selector.Select
import TreeQuery.Tree.Display

/-!
# Running the command

A call is a function from its arguments, and from what reading a file gives, to an exit code and two
texts.  A selector is compiled before its document is read.
-/

namespace TreeQuery.Command

/-- The patterns of the command. -/
instance : PatternEngine := Pattern.engine

/-- What a call leaves behind. -/
structure Outcome where
  code : Nat
  output : String
  errors : String
deriving DecidableEq, Repr

/-- Why a request fails. -/
inductive Failure where
  | selector (error : Selector.Error)
  /-- The file cannot be read, for a reason of the system's. -/
  | unreadable (path : Text) (reason : String)
  | json (fault : Json.Fault)
  | tree (error : TreeError)

/-- The displayed failure. -/
def Failure.message : Failure → String
  | selector error => "Invalid selector: " ++ error.message
  | unreadable path reason => "Failed to read " ++ String.ofList path ++ ": " ++ reason
  | json _ => "Invalid tree JSON"
  | tree error => "Tree construction failed: " ++ error.message

/-- The name and version of the program. -/
def versionLine : String := "Sieve 0.1.0"

/-- How to call the program. -/
def usage (program : String) : String :=
  versionLine ++ " - CSS-style selector queries over element trees\n\n" ++
  "USAGE:\n" ++
  "    " ++ program ++ " [OPTIONS] <SELECTOR> <TREE.json>\n\n" ++
  "OPTIONS:\n" ++
  "    -h, --help              Print this help message\n" ++
  "    -V, --version           Print version information\n" ++
  "    --explain <SELECTOR>    Print the compiled form of a selector\n\n" ++
  "EXAMPLES:\n" ++
  "    " ++ program ++ " 'ul > li:nth-child(odd)' page.json\n" ++
  "    " ++ program ++ " --explain 'div.note, p:has(> a)'\n\n\n"

/-- A warning as a line of the log. -/
def logLine (warning : Warning) : String := "[WARN  sieve::loader] " ++ warning.message ++ "\n"

/-- A message as the last line of an unsuccessful call. -/
def errorLine (message : String) : String := "Error: " ++ message ++ "\n"

/-- A call that fails. -/
def Failure.outcome (failure : Failure) : Outcome := ⟨1, "", errorLine failure.message⟩

/-- The elements that a compiled selector finds in a document given as JSON, each on a line, after
the warnings of loading it. -/
def search (condition : Selector.Condition) (json : Text) : Outcome :=
  match NodeSpec.ofJson json with
  | .error fault => (Failure.json fault).outcome
  | .ok specs =>
    match loadTree specs with
    | .error e => (Failure.tree e).outcome
    | .ok loading =>
      let found := Selector.select loading.tree condition Tree.documentId
      ⟨0, String.join (found.map fun id => String.ofList (loading.tree.describe id) ++ "\n"),
        String.join (loading.warnings.map logLine)⟩

/-- Runs the program on its arguments. -/
def run (program : String) (readFile : Text → Except String Text) (arguments : List Text) :
    Outcome :=
  match Request.ofArguments arguments with
  | .error e => ⟨1, usage program, errorLine e.message⟩
  | .ok .help => ⟨0, usage program, ""⟩
  | .ok .version => ⟨0, versionLine ++ "\n", ""⟩
  | .ok (.explain selector) =>
    match Selector.parse selector with
    | .error e => (Failure.selector e).outcome
    | .ok condition => ⟨0, String.ofList condition.render ++ "\n", ""⟩
  | .ok (.query selector path) =>
    match Selector.parse selector with
    | .error e => (Failure.selector e).outcome
    | .ok condition =>
      match readFile path with
      | .error reason => (Failure.unreadable path reason).outcome
      | .ok json => search condition json

end TreeQuery.Command
