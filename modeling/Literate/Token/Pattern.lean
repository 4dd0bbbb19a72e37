/-
This file holds the shapes of the delimiters. A delimiter is a sequence of steps:
one fixed character, or a run of one or more characters that avoids some.
Following a pattern along a text either completes it or stops at the first
character that breaks it; in both cases the outcome says which characters were
used, the breaking one included. Beside the procedure stands the language of a
pattern, which mentions no procedure: the words that are the steps' choices
written one after the other.
-/

import Literate.Text

namespace Literate

/-- One step of a delimiter's shape. -/
inductive Step where
  /-- Exactly this character. -/
  | exactly (character : Char)
  /-- One or more characters, none of them among the listed ones. -/
  | runAvoiding (excluded : List Char)
  deriving DecidableEq

/-- The shape of a delimiter, step by step. -/
abbrev Pattern := List Step

namespace Pattern

/-! ### The language of a pattern -/

/-- The words of a pattern: the choices of its steps, one after the other. -/
inductive Word : Pattern → Text → Prop where
  | done : Word [] []
  | exactly {character : Char} {steps : Pattern} {word : Text} :
      Word steps word → Word (.exactly character :: steps) (character :: word)
  | runAvoiding {excluded : List Char} {steps : Pattern} {run word : Text} :
      run ≠ [] → (∀ character ∈ run, character ∉ excluded) → Word steps word →
        Word (.runAvoiding excluded :: steps) (run ++ word)

/-! ### Following a pattern along a text -/

/-- What became of following a pattern: whether it was completed, and the characters used up,
with the one that broke the pattern as the last of them. -/
structure Trail where
  complete : Bool
  consumed : Text
  deriving DecidableEq

/-- A trail with further characters in front. -/
def Trail.after (earlier : Text) (trail : Trail) : Trail :=
  { trail with consumed := earlier ++ trail.consumed }

/-- A pattern broken by a character, or by the end of the text when there is none. -/
def Trail.broken (offender : Text) : Trail := ⟨false, offender⟩

/-- Follows a pattern from the start of a text. A run takes as many characters as it can. -/
def follow : Pattern → Text → Trail
  | [], _ => ⟨true, []⟩
  | .exactly _ :: _, [] => .broken []
  | .exactly character :: steps, first :: rest =>
    if first = character then (follow steps rest).after [first] else .broken [first]
  | .runAvoiding _ :: _, [] => .broken []
  | .runAvoiding excluded :: steps, first :: rest =>
    if first ∈ excluded then .broken [first]
    else
      (follow steps (rest.dropWhile (· ∉ excluded))).after
        (first :: rest.takeWhile (· ∉ excluded))

end Pattern

end Literate
