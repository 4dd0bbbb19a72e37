/-
This file is the program itself. It takes a picture of the files that the arguments
can reach, lets the command line decide what is to be done, and then prints and
writes what was decided.

The picture is taken from the working directory downwards and needs nothing above it.
A directory that cannot be listed is taken for sealed, a file that cannot be read is left
out, and a link is taken for what it leads to.
-/

import Literate.CommandLine.Execute

namespace Literate.Main

/-- The names that lead from the root to a place. -/
def locationOf (path : String) : Location :=
  (Path.pieces path.toList).filter fun piece => !Path.isIdle piece

/-- The path of a location from the root. -/
def pathOf (location : Location) : String := Text.written ('/' :: Text.join ['/'] location)

/-- How deep directories are followed. A path that leads deeper would be too long. -/
def deepest : Nat := FileTree.longestPath

/-- What is found at a location, and all that is below it. -/
def survey (location : Location) (entry : IO.FS.DirEntry) :
    Nat → IO (List (Location × FileEntry))
  | 0 => return []
  | depth + 1 => do
    if ← entry.path.isDir then
      match ← entry.path.readDir.toBaseIO with
      | .error _ => return [(location, .sealed)]
      | .ok inner =>
        let below ← inner.toList.mapM fun next =>
          survey (location ++ [next.fileName.toList]) next depth
        return (location, .directory) :: below.flatten
    else
      try return [(location, .file (← IO.FS.readBinFile entry.path))]
      catch _ => return []

/-- The files below a directory that is given from the root, or relative to the working
directory. -/
def surveyOutside (path : Text) : IO (List (Location × FileEntry)) := do
  try
    let real ← IO.FS.realPath ((← IO.currentDir) / Text.written path)
    survey (locationOf real.toString) { root := real, fileName := "." } deepest
  catch _ => return []

/-- The first directory on the way down to a place that may not be searched. -/
def sealedAbove (above : Location) : List Text → IO (List (Location × FileEntry))
  | [] => return []
  | name :: rest => do
    let next := above ++ [name]
    let entry : IO.FS.DirEntry := { root := pathOf above, fileName := Text.written name }
    if FileTree.longestPath < FileTree.pathLength next then return []
    else if ← entry.path.isDir then sealedAbove next rest
    else return [(above, .sealed)]

/-- The directories outside of the working directory that arguments mention. -/
def mentioned (arguments : List Text) : List Text :=
  match CommandLine.parse arguments with
  | .error _ => []
  | .ok invocation =>
    let directories := Path.containingDirectory invocation.path ::
      (invocation.config.map Path.containingDirectory).toList ++ invocation.searchPaths
    directories.filter fun path => Path.isAbsolute path || (Path.pieces path).contains ['.', '.']

/-- A picture of the files that can be reached. -/
def picture (arguments : List Text) : IO FileTree := do
  let working := locationOf (← IO.currentDir).toString
  let above ← sealedAbove [] working
  let inside ← survey working { root := ".", fileName := "." } deepest
  let outside ← (mentioned arguments).mapM surveyOutside
  return ⟨working, above ++ inside ++ outside.flatten⟩

/-- A path under which a location can be written: relative to the working directory if it is
below it. -/
def placeOf (tree : FileTree) (location : Location) : String :=
  match tree.relativePath? location with
  | some path => Text.written path
  | none => pathOf location

end Literate.Main

open Literate in
/-- Runs the command line on the files of the system. -/
def main (arguments : List String) : IO UInt32 := do
  let texts := arguments.map Text.ofString
  let tree ← Main.picture texts
  let response := CommandLine.run tree texts
  for file in tree.changedFiles response.tree do
    IO.FS.writeBinFile (Main.placeOf tree file.1) file.2
  IO.print (Text.written response.output)
  IO.eprint (Text.written response.errors)
  return UInt32.ofNat response.status
