/-
This file says how many search directories may contribute to one include directive.
-/

import Literate.Text

namespace Literate

/-- How many directories may contribute a file to one include directive. -/
inductive IncludePolicy where
  /-- Only the first directory that has the file. -/
  | firstMatch
  /-- Every directory that has the file. Each inclusion suspends the one before it, so what was
  found last is read first. -/
  | everyMatch
  deriving DecidableEq

namespace IncludePolicy

/-- The policy unless another one is asked for. -/
def standard : IncludePolicy := .firstMatch

/-- The policy of a name, as it is written in settings. -/
def ofName? (name : Text) : Option IncludePolicy :=
  if name = Text.ofString "first-match" then some .firstMatch
  else if name = Text.ofString "every-match" then some .everyMatch
  else none

/-- The files that a policy selects among those found, given in search order. -/
def select (policy : IncludePolicy) (found : List Text) : List Text :=
  match policy with
  | .firstMatch => found.take 1
  | .everyMatch => found

end IncludePolicy

end Literate
