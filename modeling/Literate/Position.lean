/-
This file says where in a document a piece of text was found. A position is
derived from the counters at the first character of the piece and from the
number of its characters; for the purpose of positions no piece spans lines.
-/

import Literate.Text

namespace Literate

/-- Where a token was found: the name of its source, and the line and column of its first and
last character. Lines count from one. The column is the value of the counter after the first
character was read, so the first character of a line stands in column one. -/
structure Position where
  source : Text
  startLine : Nat
  startColumn : Nat
  endLine : Nat
  endColumn : Nat
  deriving DecidableEq

namespace Position

/-- The position of a piece of `count` characters whose first one was read at `line` and
`column`. It ends on the line it starts on, and never before its own start. -/
def ofStart (source : Text) (line column count : Nat) : Position where
  source := source
  startLine := line
  startColumn := column
  endLine := line
  endColumn := max (column + count - 1) column

/-- The written form used in messages: source, line and column with colons between them. -/
def display (position : Position) : Text :=
  position.source ++ ':' :: Text.ofNat position.startLine ++
    ':' :: Text.ofNat position.startColumn

end Position

end Literate
