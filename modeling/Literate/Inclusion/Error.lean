/-
This file names the ways in which an include directive can fail.
-/

import Literate.FileTree.Error

namespace Literate

/-- Why an include directive could not be carried out. -/
inductive IncludeError where
  /-- No search directory has the file. -/
  | notFound (path : Text) (searched : List Text)
  /-- The file was found and could not be read. -/
  | unreadable (path : Text) (reason : FileError)
  /-- The file is being read already; the chain leads to it. -/
  | recursive (path : Text) (chain : List Text)
  deriving DecidableEq

namespace IncludeError

/-- A path between single quotes. -/
def mention (path : Text) : Text := '\x27' :: path ++ ['\x27']

/-- The directories that were searched, as a list in words. -/
def searchedWords (searched : List Text) : Text :=
  if searched.isEmpty then Text.ofString "nothing"
  else Text.join (Text.ofString ", ") (searched.map mention)

/-- The message of a failed inclusion. -/
def message : IncludeError → Text
  | .notFound path searched =>
    Text.ofString "could not find " ++ mention path ++
      Text.ofString " in any include directory (searched " ++ searchedWords searched ++ [')']
  | .unreadable path reason =>
    Text.ofString "could not open " ++ mention path ++ Text.ofString " for reading: " ++
      reason.message
  | .recursive path chain =>
    mention path ++ Text.ofString " is already being included (" ++
      Text.join (Text.ofString " -> ") chain ++ [')']

end IncludeError

end Literate
