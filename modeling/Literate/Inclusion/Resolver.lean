/-
This file carries out include directives. The path of a directive is looked up in a
list of search directories; the policy decides whether the first file found or all
of them are opened. Before the first candidate is opened, all of them are compared
with the inputs on the stack, by their canonical forms, and one that is being read
already is refused. A path without a canonical form is equal to no file: an input whose
name leads to nothing is never met again, and a candidate that is found but cannot be
named from the root is not compared at all.

As long as all candidates have canonical forms, every file that is opened was not on the
stack before. A candidate that has none is opened again and again, so that a file which
includes itself makes a run that never ends.

The directories are texts, as all paths are here, so a source that was opened has the
path of its file for a name and leads to the same file again. A directory whose name is
no text would be shown by another name.
-/

import Literate.FileTree
import Literate.Inclusion.Policy
import Literate.Run

namespace Literate

/-- Where included files are searched for, and how many of them are taken. -/
structure Resolver where
  searchPaths : List Text
  policy : IncludePolicy
  deriving DecidableEq

namespace Resolver

/-- Adds a directory at the end of the search list. -/
def push (resolver : Resolver) (directory : Text) : Resolver :=
  { resolver with searchPaths := resolver.searchPaths ++ [directory] }

/-- Puts a directory in front of the search list. -/
def pushFront (resolver : Resolver) (directory : Text) : Resolver :=
  { resolver with searchPaths := directory :: resolver.searchPaths }

/-! ### Finding files -/

/-- The files under a path in the search directories, in search order. -/
def matching (resolver : Resolver) (tree : FileTree) (path : Text) : List Text :=
  (resolver.searchPaths.map fun directory => Path.join directory path).filter tree.isFile

/-- The files to open for a path, or the report that there is none. -/
def resolve (resolver : Resolver) (tree : FileTree) (path : Text) :
    Except IncludeError (List Text) :=
  match resolver.policy.select (resolver.matching tree path) with
  | [] => .error (.notFound path resolver.searchPaths)
  | candidates => .ok candidates

/-! ### Opening files -/

/-- Whether a candidate is the same file as one of the named inputs. One without a canonical form
passes. -/
def isActive (tree : FileTree) (names : List Text) (candidate : Text) : Bool :=
  match tree.canonical? candidate with
  | none => false
  | some target => names.any fun name => tree.canonical? name == some target

/-- Opens files in order up to the first that cannot be read. Each source is named after the path
of its file. -/
def openAll (tree : FileTree) : List Text → Opening
  | [] => {}
  | path :: rest =>
    match tree.readText path with
    | .error reason => { failure := some (.unreadable path reason) }
    | .ok text =>
      let later := openAll tree rest
      { later with opened := ⟨path, text⟩ :: later.opened }

/-- Carries out a directive against a stack of inputs. Anything but an inclusion is ignored. -/
def handle (resolver : Resolver) (tree : FileTree) (given : Directive) (inputs : Inputs) :
    Opening :=
  match given with
  | .language _ => {}
  | .inclusion path =>
    match resolver.resolve tree path with
    | .error error => { failure := some error }
    | .ok candidates =>
      match candidates.find? (isActive tree inputs.activeNames) with
      | some candidate =>
        { failure := some (.recursive candidate (inputs.activeNames ++ [candidate])) }
      | none => openAll tree candidates

/-! ### Runs with inclusions -/

/-- A sink that carries out inclusions before it passes the directive on. After a failure the
inner sink is not asked. -/
def including {σ : Type} (resolver : Resolver) (tree : FileTree) (inner : Sink σ) : Sink σ where
  event := inner.event
  directive state given inputs :=
    let opening := resolver.handle tree given inputs
    match opening.failure with
    | some _ => { opening with state }
    | none =>
      let reply := inner.directive state given (inputs.pushAll opening.opened)
      { reply with opened := opening.opened ++ reply.opened }

/-- Runs a stack of inputs with inclusions to its end, against a sink that opens nothing itself. A
run that never ends is exhausted, and nothing has come of it. -/
def run {σ : Type} (resolver : Resolver) (tree : FileTree) (inner : Sink σ) (inputs : Inputs)
    (state : σ) : Outcome σ :=
  (Run.finish? (resolver.including tree inner) ⟨inputs, .outside, state⟩).getD
    ⟨.exhausted, inputs, state⟩

end Resolver

end Literate
