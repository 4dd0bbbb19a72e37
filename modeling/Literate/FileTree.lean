/-
This file models the files that a program can see. A tree has a working directory
and entries, each at a location, which is the list of names that leads to it from
the root. A path is followed name by name from the working directory or the root;
every name but the last must lead to a directory that may be searched.

The canonical form of a path is the location at which it ends, found once more by
its names from the root. So two paths with canonical forms mean the same file exactly
if these are equal; but a path can lead to a file and have none. A relative path
starts at the working directory and never looks at what is above it. If a directory
above is sealed, or if the names from the root are too many bytes, then the file is
found and can be read, and still has no canonical form.

Four things are taken for granted. Names and paths are texts, so that a path is shown
as it is written. There are no links. A file that is found can be read, and a file
can be written wherever its directory may be searched. The tree changes only by what
is written here.
-/

import Literate.FileTree.Error
import Literate.Path

namespace Literate

/-- The names that lead from the root to a place in a file tree. -/
abbrev Location := List Text

/-- What is found at a location. -/
inductive FileEntry where
  | file (contents : ByteArray)
  | directory
  /-- A directory that may be neither read nor searched. -/
  | sealed

/-- Whether an entry is a file with the given contents. -/
def FileEntry.holds : FileEntry → ByteArray → Bool
  | .file contents, expected => contents.data == expected.data
  | .directory, _ | .sealed, _ => false

/-- The files and directories that can be seen, and where relative paths start. -/
structure FileTree where
  workingDirectory : Location
  entries : List (Location × FileEntry)

namespace FileTree

/-! ### Entries -/

/-- Whether a location is on the way to the working directory or to an entry. -/
def isOnTheWay (tree : FileTree) (location : Location) : Bool :=
  location.isPrefixOf tree.workingDirectory ||
    tree.entries.any fun entry => location.isPrefixOf entry.1

/-- What is found at a location. Every place on the way to something is a directory. -/
def entryAt? (tree : FileTree) (location : Location) : Option FileEntry :=
  match tree.entries.lookup location with
  | some entry => some entry
  | none => if tree.isOnTheWay location then some .directory else none

/-- The contents of the files of a tree with their locations. -/
def files (tree : FileTree) : List (Location × ByteArray) :=
  tree.entries.filterMap fun entry =>
    match entry.2 with
    | .file contents => some (entry.1, contents)
    | .directory | .sealed => none

/-! ### Following paths -/

/-- The longest name that a file can have, in bytes. -/
def longestName : Nat := 255

/-- The longest path that can be asked for, in bytes. -/
def longestPath : Nat := 4095

/-- Where one piece of a path leads from a directory. -/
def advance (location : Location) (piece : Text) : Location :=
  if Path.isIdle piece then location
  else if piece = ['.', '.'] then location.dropLast
  else location ++ [piece]

/-- Where a piece of a path leads from a location, which must be a directory. An empty piece is
not looked up, so that it may stand behind a sealed one. -/
def enter (tree : FileTree) (location : Location) (piece : Text) : Except FileError Location :=
  match tree.entryAt? location with
  | none => .error .missing
  | some (.file _) => .error .notDirectory
  | some .sealed => if piece.isEmpty then .ok location else .error .denied
  | some .directory =>
    if longestName < Text.byteLength piece then .error .tooLong
    else .ok (advance location piece)

/-- Follows the pieces of a path from a location. -/
def follow (tree : FileTree) : Location → List Text → Except FileError Location
  | location, [] => .ok location
  | location, piece :: rest =>
    match tree.enter location piece with
    | .error error => .error error
    | .ok next => tree.follow next rest

/-- Where a path starts. -/
def startOf (tree : FileTree) (path : Text) : Location :=
  if Path.isAbsolute path then [] else tree.workingDirectory

/-- Why nothing is looked up under a path at all. -/
def objection? (path : Text) : Option FileError :=
  if path.any (·.toNat == 0) then some .containsNul
  else if path.isEmpty then some .missing
  else if longestPath < Text.byteLength path then some .tooLong
  else none

/-- The location that a path leads to, with what is found there. -/
def locate (tree : FileTree) (path : Text) : Except FileError (Location × FileEntry) :=
  match objection? path with
  | some error => .error error
  | none =>
    match tree.follow (tree.startOf path) (Path.pieces path) with
    | .error error => .error error
    | .ok location =>
      match tree.entryAt? location with
      | some entry => .ok (location, entry)
      | none => .error .missing

/-- Whether a path leads to a regular file. -/
def isFile (tree : FileTree) (path : Text) : Bool :=
  match tree.locate path with
  | .ok (_, .file _) => true
  | _ => false

/-! ### Canonical forms -/

/-- The number of bytes of a path that names a location from the root. -/
def pathLength (location : Location) : Nat :=
  location.foldr (fun name size => Text.byteLength name + 1 + size) 0

/-- Whether a sealed directory is at a location. -/
def isSealed (tree : FileTree) (location : Location) : Bool :=
  match tree.entryAt? location with
  | some .sealed => true
  | _ => false

/-- Whether a location can be asked for by its names from the root: these make no path that is
too long, and nothing above the location is sealed. -/
def isNameable (tree : FileTree) (location : Location) : Bool :=
  decide (pathLength location ≤ longestPath) &&
    (List.range location.length).all fun count => !tree.isSealed (location.take count)

/-- The locations that the pieces of a path lead to, one after the other. -/
def trail : Location → List Text → List Location
  | _, [] => []
  | location, piece :: rest => advance location piece :: trail (advance location piece) rest

/-- The canonical form of a path that leads to something. It is found by naming every location on
the trail of the path from the root, so that there is none if one of them cannot be named. -/
def canonical? (tree : FileTree) (path : Text) : Option Location :=
  match tree.locate path with
  | .ok (location, _) =>
    if (trail (tree.startOf path) (Path.pieces path)).all tree.isNameable then some location
    else none
  | .error _ => none

/-! ### Reading and writing -/

/-- The bytes of the file that a path leads to. -/
def readBytes (tree : FileTree) (path : Text) : Except FileError ByteArray :=
  match tree.locate path with
  | .error error => .error error
  | .ok (_, .directory) => .error .isDirectory
  | .ok (_, .sealed) => .error .denied
  | .ok (_, .file contents) => .ok contents

/-- The text of the file that a path leads to. -/
def readText (tree : FileTree) (path : Text) : Except FileError Text :=
  match tree.readBytes path with
  | .error error => .error error
  | .ok contents =>
    match String.fromUTF8? contents with
    | some decoded => .ok decoded.toList
    | none => .error .notText

/-- Puts a file at a location in place of what was there. -/
def put (tree : FileTree) (location : Location) (contents : ByteArray) : FileTree :=
  { tree with
    entries := tree.entries.filter (fun entry => entry.1 ≠ location) ++
      [(location, .file contents)] }

/-- The location at which a file can be written under a path. The directory of the path must
exist, the path must end in a name, and no directory may be there. A slash at the end of a path
is taken for a single dot. -/
def writable (tree : FileTree) (path : Text) : Except FileError Location :=
  match objection? path, (Path.pieces path).reverse.dropWhile List.isEmpty with
  | some error, _ => .error error
  | none, [] => .error .isDirectory
  | none, name :: front =>
    let last := if path.getLast? = some '/' then ['.'] else name
    match tree.follow (tree.startOf path) front.reverse with
    | .error error => .error error
    | .ok directory =>
      match tree.enter directory last with
      | .error error => .error error
      | .ok location =>
        if last = ['.'] ∨ last = ['.', '.'] then .error .isDirectory
        else
          match tree.entryAt? location with
          | some .directory | some .sealed => .error .isDirectory
          | _ => .ok location

/-- Writes a text into the file under a path, which need not exist before. -/
def writeText (tree : FileTree) (path : Text) (contents : Text) : Except FileError FileTree :=
  match tree.writable path with
  | .error error => .error error
  | .ok location => .ok (tree.put location (Text.written contents).toUTF8)

/-- The files of a tree that an earlier one did not have, or had with other contents. -/
def changedFiles (before after : FileTree) : List (Location × ByteArray) :=
  after.files.filter fun file => !(before.entries.lookup file.1).any (·.holds file.2)

/-- The path of a location relative to the working directory, if it is below it. -/
def relativePath? (tree : FileTree) (location : Location) : Option Text :=
  if tree.workingDirectory.isPrefixOf location then
    some (Text.join ['/'] (location.drop tree.workingDirectory.length))
  else none

end FileTree

end Literate
