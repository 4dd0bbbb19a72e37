/-
This file names the ways in which a file cannot be read or written, with the words
that the system has for them.
-/

import Literate.Text

namespace Literate

/-- Why a file could not be read or written. -/
inductive FileError where
  /-- There is nothing under the path. -/
  | missing
  /-- Something on the way is a file where a directory is needed. -/
  | notDirectory
  /-- The path leads to a directory where a file is needed. -/
  | isDirectory
  /-- Something on the way, or the directory itself, is sealed. -/
  | denied
  /-- The path or one of its names is too long. -/
  | tooLong
  /-- The path has a NUL, so the system is not asked at all. -/
  | containsNul
  /-- The bytes of the file encode no text. -/
  | notText
  deriving DecidableEq

/-- The system's words for a failure. -/
def FileError.message : FileError → Text
  | .missing => Text.ofString "No such file or directory (os error 2)"
  | .notDirectory => Text.ofString "Not a directory (os error 20)"
  | .isDirectory => Text.ofString "Is a directory (os error 21)"
  | .denied => Text.ofString "Permission denied (os error 13)"
  | .tooLong => Text.ofString "File name too long (os error 36)"
  | .containsNul => Text.ofString "file name contained an unexpected NUL byte"
  | .notText => Text.ofString "stream did not contain valid UTF-8"

end Literate
