/-
This file carries out what the command line asks for. The configuration is loaded
first, then the document is processed, and then the result is printed or written to
a file. Results go to standard output, everything else to standard error, and the
exit status tells success, failure and wrong usage apart.
-/

import Literate.CommandLine.Arguments
import Literate.Configuration.Load
import Literate.Document
import Literate.Json

namespace Literate.CommandLine

/-- What the program does in the end: its exit status, what it prints, and the files as they are
afterwards. -/
structure Response where
  status : Nat
  output : Text
  errors : Text
  tree : FileTree

/-- The exit status after a failure. -/
def failureStatus : Nat := 1

/-- The exit status after wrong usage. -/
def usageStatus : Nat := 2

/-- The line that names the program and its version. -/
def versionLine : Text := Text.ofString "minweb 0.1.0\n"

/-- The commands in brief. -/
def usageLines : Text :=
  Text.ofString "Usage: minweb [OPTIONS] <COMMAND>\n\nCommands: tangle list-files list-sections" ++
    Text.ofString " extract trace tokens\n"

/-- A line that reports a failure. -/
def failureLine (message : Text) : Text := Text.ofString "Error: " ++ message ++ ['\n']

/-- A failure before anything was done. -/
def fail (tree : FileTree) (message : Text) : Response :=
  ⟨failureStatus, [], failureLine message, tree⟩

/-- A result that is printed. -/
def succeed (tree : FileTree) (output : Text) : Response := ⟨0, output, [], tree⟩

/-- The path that stands for standard output. -/
def standardOutput : Text := ['-']

/-- Writes a result to a file, or prints it. -/
def write (tree : FileTree) (path contents : Text) : Response :=
  if Path.same path standardOutput then succeed tree contents
  else
    let notice := Text.ofString "Writing to output \x27" ++ path ++ Text.ofString "\x27\n"
    match tree.writeText path contents with
    | .ok after => ⟨0, [], notice, after⟩
    | .error reason =>
      ⟨failureStatus, [], notice ++ failureLine (unopenedMessage path reason), tree⟩

/-- One token on a line: its place, its kind and its text in quoted form. -/
def tokenLine (token : Token) : Text :=
  token.position.display ++ Text.ofString " <" ++ Text.ofString token.kind.label ++
    Text.ofString "> " ++ Text.quoted token.text ++ ['\n']

/-- The listing of tokens. -/
def tokenListing (structured : Bool) (tokens : List Token) : Text :=
  if structured then (Json.array (tokens.map Token.toJson)).pretty 0 ++ ['\n']
  else tokens.flatMap tokenLine

/-- Names on lines of their own. -/
def nameLines (names : List Text) : Text := names.flatMap fun name => name ++ ['\n']

/-- Goes on with a report, or fails with its error. -/
def reporting {α : Type} (tree : FileTree) (report : Except DocumentError α)
    (present : α → Response) : Response :=
  match report with
  | .ok value => present value
  | .error error => fail tree error.message

/-- Carries out a task on a document. -/
def perform (tree : FileTree) (configuration : Configuration) (document : Document) :
    Task → Response
  | .tangle output root =>
    reporting tree (document.tangle tree root) fun code =>
      match output, root with
      | some path, _ => write tree path code
      | none, some name => write tree name code
      | none, none => succeed tree code
  | .listFiles =>
    reporting tree (document.fileNames tree) fun names => succeed tree (nameLines names)
  | .listSections =>
    reporting tree (document.sectionNames tree) fun names => succeed tree (nameLines names)
  | .extract title output =>
    reporting tree (document.extract tree title) fun assignments =>
      write tree (output.getD (configuration.extractPath title)) assignments
  | .trace => reporting tree (document.trace tree) (succeed tree)
  | .tokens structured =>
    reporting tree (document.tokens tree) fun tokens =>
      succeed tree (tokenListing structured tokens)

/-- The plan of the configuration that an invocation asks for: the file it names, or the one in
the working directory. -/
def planOf (invocation : Invocation) : ConfigurationPlan :=
  let plan : ConfigurationPlan := { policy := invocation.policy }
  match invocation.config with
  | some path => plan.withFile path
  | none => plan.discoverIn ['.']

/-- The document that an invocation is about. -/
def documentOf (invocation : Invocation) (configuration : Configuration) : Document :=
  (invocation.searchPaths.foldl Document.withSearchPath (.ofPath invocation.path)).withConfiguration
    configuration

/-- Carries out an invocation. -/
def execute (tree : FileTree) (invocation : Invocation) : Response :=
  match (planOf invocation).build tree with
  | .error error => fail tree error.message
  | .ok configuration =>
    perform tree configuration (documentOf invocation configuration) invocation.task

/-- What the program does when it is called with the given arguments. -/
def run (tree : FileTree) (arguments : List Text) : Response :=
  match parse arguments with
  | .ok invocation => execute tree invocation
  | .error .version => succeed tree versionLine
  | .error .help => succeed tree usageLines
  | .error .usage => ⟨usageStatus, [], usageLines, tree⟩

end Literate.CommandLine
