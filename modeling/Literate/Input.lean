/-
This file defines the inputs that documents are read from. An input is the name of
a source together with a cursor: the characters still to come, the line and
column counters, and the characters that were looked at and put back. Reading
takes exactly one token off the unread characters. After a macro reference one
character has been looked at to exclude a following `=`; it is put back, while
the counters already include it.

The lemmas say what reading does to the unread characters; the list of all tokens
of an input is defined by recursion on their number.
-/

import Literate.Text.Quoted
import Literate.Token.Lexeme

namespace Literate

/-- A named text to be read. -/
structure Source where
  name : Text
  text : Text
  deriving DecidableEq

namespace Source

/-- The source whose text is encoded by the given bytes in UTF-8. There is none for bytes that
encode no text. -/
def ofBytes? (name : Text) (bytes : ByteArray) : Option Source :=
  (String.fromUTF8? bytes).map fun decoded => ⟨name, decoded.toList⟩

/-- A one-line description of a source: its name and the number of its characters. -/
def summary (source : Source) : Text :=
  Text.ofString "InputSource \x7b name: " ++ Text.quoted source.name ++
    Text.ofString ", remaining: " ++ Text.ofNat source.text.length ++ Text.ofString " \x7d"

end Source

/-- A source that is being read: the characters put back, those not looked at yet, and the
counters of line and column after everything looked at so far. -/
structure Input where
  source : Text
  pending : Text
  rest : Text
  line : Nat
  column : Nat
  deriving DecidableEq

namespace Input

/-- A source before its first character, on line one and column zero. -/
def ofSource (source : Source) : Input := ⟨source.name, [], source.text, 1, 0⟩

/-- The characters still to be read, those put back first. -/
def unread (input : Input) : Text := input.pending ++ input.rest

/-! ### Single characters -/

/-- The next character with the input after it. A character that was put back was counted when
it was first looked at; a new one moves the counters. -/
def next? (input : Input) : Option (Char × Input) :=
  match input.pending, input.rest with
  | character :: pending, _ => some (character, { input with pending })
  | [], character :: rest =>
    if character = '\n' then
      some (character, { input with rest, line := input.line + 1, column := 0 })
    else some (character, { input with rest, column := input.column + 1 })
  | [], [] => none

/-- The input after so many further characters, or at its end when there are not that many. -/
def skip (input : Input) : Nat → Input
  | 0 => input
  | count + 1 =>
    match input.next? with
    | none => input
    | some (_, after) => after.skip count

/-- The input after looking at one character and putting it back. -/
def lookAhead (input : Input) : Input :=
  match input.next? with
  | none => input
  | some (character, after) => { after with pending := after.pending ++ [character] }

theorem unread_next? {input after : Input} {character : Char}
    (found : input.next? = some (character, after)) :
    input.unread = character :: after.unread := by
  unfold next? at found
  split at found
  · rename_i samePending
    cases found
    simp [unread, samePending]
  · rename_i rest samePending sameRest
    split at found <;> cases found <;> simp [unread, samePending, sameRest]
  · cases found

theorem unread_of_next?_eq_none {input : Input} (ended : input.next? = none) :
    input.unread = [] := by
  unfold next? at ended
  split at ended
  · cases ended
  · split at ended <;> cases ended
  · rename_i samePending sameRest
    simp [unread, samePending, sameRest]

theorem unread_skip (input : Input) (count : Nat) :
    (input.skip count).unread = input.unread.drop count := by
  induction count generalizing input with
  | zero => rfl
  | succ count inductionHypothesis =>
    rw [skip]
    split
    · rename_i ended
      simp [unread_of_next?_eq_none ended]
    · rename_i found
      rw [inductionHypothesis, unread_next? found, List.drop_succ_cons]

theorem length_unread_lookAhead (input : Input) :
    input.lookAhead.unread.length = input.unread.length := by
  unfold lookAhead
  split
  · rfl
  · rename_i found
    rw [unread_next? found]
    simp [unread]
    omega

/-! ### Tokens -/

/-- The end-of-input token, which stands where the counters are and has no text. -/
def endToken (input : Input) : Token :=
  ⟨.endOfInput, [], .ofStart input.source input.line input.column 0⟩

/-- Reads one token. At the end of the input the end-of-input token is read again and again. -/
def read (input : Input) : Token × Input :=
  match input.next? with
  | none => (input.endToken, input)
  | some (first, after) =>
    let lexeme := Lexeme.scan first after.unread
    let position := Position.ofStart input.source after.line after.column lexeme.text.length
    let consumed := after.skip (lexeme.text.length - 1)
    (⟨lexeme.kind, lexeme.text, position⟩,
      if lexeme.kind = .macroReference then consumed.lookAhead else consumed)

/-- Reading at the end of an input gives the end-of-input token and changes nothing. -/
theorem read_of_next?_eq_none {input : Input} (ended : input.next? = none) :
    input.read = (input.endToken, input) := by
  simp only [read, ended]

/-- Reading anything but the end leaves fewer characters unread. -/
theorem length_unread_read_lt {input : Input} (more : input.next? ≠ none) :
    input.read.2.unread.length < input.unread.length := by
  unfold read
  split
  · rename_i ended
    exact absurd ended more
  · rename_i first after found
    have shorter : ∀ count, (after.skip count).unread.length < input.unread.length := by
      intro count
      rw [unread_skip, unread_next? found, List.length_drop, List.length_cons]
      omega
    dsimp only
    split
    · rw [length_unread_lookAhead]
      exact shorter _
    · exact shorter _

/-- All tokens of an input up to its end, without the end-of-input token, and the input at its
end. -/
def readAll (input : Input) : List Token × Input :=
  if _ : input.next? = none then ([], input)
  else
    let step := input.read
    let remainder := step.2.readAll
    (step.1 :: remainder.1, remainder.2)
  termination_by input.unread.length
  decreasing_by exact length_unread_read_lt ‹_›

/-- All tokens of an input up to its end. -/
def tokens (input : Input) : List Token := input.readAll.1

end Input

/-- The tokens of a text under a name. -/
def Source.tokens (source : Source) : List Token := (Input.ofSource source).tokens

end Literate
