/-
This file writes texts in small letters. Two capital letters have no small letter
of their own: the capital I with a dot becomes a small i with a dot above it, and
the capital sigma has one small form inside of words and another at their ends.
-/

import Literate.Text
import Literate.Text.Letters

namespace Literate.Text

/-- Whether the first character that is not passed over has case. -/
def meetsLetter (text : Text) : Bool :=
  ((text.dropWhile isCaseIgnorable).head?.map isCased).getD false

/-- The small form of a capital sigma between the characters before it, the nearest first, and
those after it. It ends a word if there is a letter before it and none after it. -/
def smallSigma (before after : Text) : Char :=
  if meetsLetter before && !meetsLetter after then '\u03C2' else '\u03C3'

/-- The small form of a character between the characters before it, the nearest first, and those
after it. -/
def smallForm (before : Text) (character : Char) (after : Text) : Text :=
  if character = '\u03A3' then [smallSigma before after]
  else if character = '\u0130' then ['i', '\u0307']
  else [smallLetter character]

/-- The small forms of the characters of a text that comes after others. -/
def loweredAfter (before : Text) : Text → Text
  | [] => []
  | character :: rest =>
    smallForm before character rest ++ loweredAfter (character :: before) rest

/-- A text in small letters. -/
def lowered (text : Text) : Text := loweredAfter [] text

end Literate.Text
