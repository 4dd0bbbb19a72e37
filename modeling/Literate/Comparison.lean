/-
This file compares two texts line by line. Equal texts have no report; for
different ones the report names every line at which they differ, and shows the
lines in quoted form, so that no difference is invisible. Lines are cut at newlines
only, so a missing final newline shows as a missing empty line.
-/

import Literate.Text.Quoted

namespace Literate.Comparison

/-- One remark of a report: the number of a line, what is said of it, and the line itself. -/
def remark (number : Nat) (words : String) (line : Text) : Text :=
  Text.ofString "line " ++ Text.ofNat number ++ Text.ofString words ++ Text.quoted line

/-- The remarks on two lists of lines, of which the first ones have the given number. -/
def remarks (number : Nat) : List Text → List Text → List Text
  | [], [] => []
  | expected :: moreExpected, [] =>
    remark number ": missing " expected :: remarks (number + 1) moreExpected []
  | [], actual :: moreActual =>
    remark number ": extra " actual :: remarks (number + 1) [] moreActual
  | expected :: moreExpected, actual :: moreActual =>
    if expected = actual then remarks (number + 1) moreExpected moreActual
    else
      remark number ": expected " expected :: remark number ":   actual " actual ::
        remarks (number + 1) moreExpected moreActual

/-- The report on two different texts, and nothing on equal ones. -/
def report? (expected actual : Text) : Option Text :=
  if expected = actual then none
  else
    let expectedLines := Text.lines expected
    let actualLines := Text.lines actual
    some (Text.ofString "texts differ (" ++ Text.ofNat expectedLines.length ++
      Text.ofString " expected lines, " ++ Text.ofNat actualLines.length ++
      Text.ofString " actual lines)\n" ++
      Text.join ['\n'] (remarks 1 expectedLines actualLines))

end Literate.Comparison
