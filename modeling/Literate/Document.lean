/-
This file is the entry to whole documents. A document is a file or a text, together
with the settings for its inclusions and the root that is expanded by default. Every
report on a document is made by a fresh run over it, with inclusions carried out, so
all reports describe the same run.
-/

import Literate.Configuration
import Literate.Inclusion.Resolver
import Literate.MacroTable.Expansion
import Literate.Report.Extract
import Literate.Report.Names
import Literate.Report.Trace

namespace Literate

/-- Where the text of a document comes from. -/
inductive Origin where
  | path (path : Text)
  | source (source : Source)
  deriving DecidableEq

/-- A document with the settings it is processed under. -/
structure Document where
  origin : Origin
  resolver : Resolver
  defaultRoot : Text
  deriving DecidableEq

/-- Why a report on a document could not be made. -/
inductive DocumentError where
  /-- The document could not be read. -/
  | unreadable (path : Text) (reason : FileError)
  /-- The run over the document failed. -/
  | run (error : RunError)
  /-- A macro could not be expanded. -/
  | expansion (error : ExpansionError)
  /-- The run over the document never ends. -/
  | unfinished
  deriving DecidableEq

/-- The words for a file that could not be read or written. -/
def unopenedMessage (path : Text) (reason : FileError) : Text :=
  Text.ofString "file \x27" ++ path ++ Text.ofString "\x27 could not be opened: " ++ reason.message

/-- The message of an error. -/
def DocumentError.message : DocumentError → Text
  | .unreadable path reason => unopenedMessage path reason
  | .run error => error.message
  | .expansion error => error.message
  | .unfinished => Text.ofString "the document did not come to an end"

namespace Document

/-! ### Making documents -/

/-- The document in a file. Its directory is searched for inclusions before any other. -/
def ofPath (path : Text) : Document where
  origin := .path path
  resolver := ⟨[Path.containingDirectory path], .standard⟩
  defaultRoot := rootName

/-- The document with the given text. -/
def ofSource (source : Source) : Document where
  origin := .source source
  resolver := ⟨[], .standard⟩
  defaultRoot := rootName

/-- Adds a directory at the end of the search list. -/
def withSearchPath (document : Document) (directory : Text) : Document :=
  { document with resolver := document.resolver.push directory }

/-- Sets the policy for inclusions. -/
def withPolicy (document : Document) (policy : IncludePolicy) : Document :=
  { document with resolver := { document.resolver with policy } }

/-- Applies the search paths, the policy and the default root of a configuration. -/
def withConfiguration (document : Document) (configuration : Configuration) : Document :=
  { (configuration.searchPaths.foldl withSearchPath document).withPolicy configuration.policy with
    defaultRoot := configuration.defaultRoot }

/-- The name of a document. -/
def name (document : Document) : Text :=
  match document.origin with
  | .path path => path
  | .source source => source.name

/-! ### Running over a document -/

/-- The text of a document under its name. -/
def source (document : Document) (tree : FileTree) : Except DocumentError Source :=
  match document.origin with
  | .source source => .ok source
  | .path path =>
    match tree.readText path with
    | .ok text => .ok ⟨path, text⟩
    | .error reason => .error (.unreadable path reason)

/-- Runs over a document with inclusions, against a sink that opens nothing itself. -/
def run {σ : Type} (document : Document) (tree : FileTree) (sink : Sink σ) (state : σ) :
    Except DocumentError (Outcome σ) :=
  match document.source tree with
  | .ok source => .ok (document.resolver.run tree sink (.ofSource source) state)
  | .error error => .error error

/-- What an observer holds after a successful run over a document. -/
def observe {σ : Type} (document : Document) (tree : FileTree) (observer : σ → Event → σ)
    (state : σ) : Except DocumentError σ :=
  match document.run tree (.observing observer) state with
  | .error error => .error error
  | .ok outcome =>
    match outcome.verdict with
    | .completed => .ok outcome.state
    | .failed error => .error (.run error)
    | .exhausted => .error .unfinished

/-! ### Reports -/

/-- The tokens of the document itself. Inclusions are not followed. -/
def tokens (document : Document) (tree : FileTree) : Except DocumentError (List Token) :=
  (document.source tree).map Source.tokens

/-- The macros of a document. -/
def macroTable (document : Document) (tree : FileTree) : Except DocumentError MacroTable :=
  (document.observe tree MacroTable.Builder.observe .start).map MacroTable.Builder.table

/-- The expansion of a root, or of the default root. -/
def tangle (document : Document) (tree : FileTree) (root : Option Text) :
    Except DocumentError Text :=
  match document.macroTable tree with
  | .error error => .error error
  | .ok table =>
    match table.evaluate (root.getD document.defaultRoot) with
    | .ok text => .ok text
    | .error error => .error (.expansion error)

/-- The names of the FILE macros, in ascending order. -/
def fileNames (document : Document) (tree : FileTree) : Except DocumentError (List Text) :=
  document.observe tree Report.fileNames []

/-- The names of the SECTION macros, in the order of their beginnings. -/
def sectionNames (document : Document) (tree : FileTree) : Except DocumentError (List Text) :=
  document.observe tree Report.sectionNames []

/-- The assignments of a section, one line each. -/
def extract (document : Document) (tree : FileTree) (title : Text) : Except DocumentError Text :=
  (document.observe tree Report.Extract.observe (.start title)).map Report.Extract.render

/-- The trace of a run over a document. -/
def trace (document : Document) (tree : FileTree) : Except DocumentError Text :=
  (document.observe tree Report.Trace.observe .start).map Report.Trace.output

end Document

end Literate
