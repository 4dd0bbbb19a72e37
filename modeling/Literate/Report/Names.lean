/-
This file lists the files and the sections that a document defines.
-/

import Literate.Ascending
import Literate.Event

namespace Literate.Report

/-- The names of the FILE macros so far, in ascending order and each once. -/
def fileNames (names : List Text) : Event → List Text
  | .opening .file name => insertAscending name names
  | _ => names

/-- The names of the SECTION macros so far, in the order in which their bodies begin. -/
def sectionNames (names : List Text) : Event → List Text
  | .opening .sectional name => names ++ [name]
  | _ => names

end Literate.Report
