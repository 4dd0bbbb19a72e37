/-
This file holds the settings of the program and their standard values.
-/

import Literate.Event
import Literate.Inclusion.Policy

namespace Literate

/-- The settings under which documents are processed. -/
structure Configuration where
  /-- Directories searched for included files, after the document's own. -/
  searchPaths : List Text
  /-- How many of them may contribute to one include directive. -/
  policy : IncludePolicy
  /-- The macro that is expanded when none is named. -/
  defaultRoot : Text
  /-- What is appended to the name of a section to name its extract. -/
  outputSuffix : Text
  deriving DecidableEq

namespace Configuration

/-- The settings that hold unless others are given. -/
def standard : Configuration where
  searchPaths := []
  policy := .standard
  defaultRoot := rootName
  outputSuffix := Text.ofString ".input"

/-- The file that the extract of a section is written to when none is named. -/
def extractPath (configuration : Configuration) (title : Text) : Text :=
  title ++ configuration.outputSuffix

end Configuration

end Literate
