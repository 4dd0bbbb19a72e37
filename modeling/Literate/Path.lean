/-
This file works on paths as they are written. A path is a text; its components are
the pieces between slashes. Paths are shown as they were put together and never
tidied up, so joining and taking the containing directory work on the text.
-/

import Literate.Text

namespace Literate.Path

/-- The pieces of a path between its slashes, empty ones included. -/
def pieces (path : Text) : List Text := Text.splitAt '/' path

/-- Whether a path starts at the root of the file tree. -/
def isAbsolute (path : Text) : Bool := path.head? == some '/'

/-- Whether a piece of a path leads nowhere else: it is empty or a single dot. -/
def isIdle (piece : Text) : Bool := piece == [] || piece == ['.']

/-- The pieces of a path up to the last one that leads somewhere. -/
def trimmed (pieces : List Text) : List Text := (pieces.reverse.dropWhile isIdle).reverse

/-! ### Joining -/

/-- A path below a directory. An absolute path stays as it is. -/
def join (directory path : Text) : Text :=
  if isAbsolute path then path
  else if directory.isEmpty || directory.getLast? == some '/' then directory ++ path
  else directory ++ '/' :: path

/-! ### The containing directory -/

/-- The pieces below the start of a path, and the start itself: the root, or the first piece of
a relative path, which counts even if it is a single dot. -/
def startAndRest (path : Text) : Option Text × List Text :=
  match pieces path with
  | [] => (none, [])
  | first :: rest => if isAbsolute path then (none, rest) else (some first, rest)

/-- A path without its last component, and without what leads nowhere at its end. The directory
of a bare name, and of a path that has none, is the single dot. -/
def containingDirectory (path : Text) : Text :=
  let (start, rest) := startAndRest path
  match start, trimmed rest with
  | _, [] => ['.']
  | none, body => '/' :: Text.join ['/'] (trimmed body.dropLast)
  | some first, body => Text.join ['/'] (first :: trimmed body.dropLast)

/-- The components of a path in order. Pieces that lead nowhere are left out, except a single
dot at the very start of a relative path. -/
def components (path : Text) : List Text :=
  let (start, rest) := startAndRest path
  let kept := rest.filter fun piece => !isIdle piece
  match start with
  | none => kept
  | some [] => kept
  | some first => first :: kept

/-- Whether two paths have the same components and the same kind of start. -/
def same (first second : Text) : Bool :=
  isAbsolute first == isAbsolute second && components first == components second

end Literate.Path
