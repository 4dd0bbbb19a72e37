/-
This file lets several inputs be read in turn by one lexer. One input is installed in
the lexer; others wait on shelves, each under a label. Installing another input never
touches the one that is put away: it is read further from exactly where it was left.
What the lexer holds besides its input is not put away, and is there when the next
input is read.
-/

import Literate.Lexer

namespace Literate

/-- The lexer with the input being read, and the inputs put away under labels. -/
structure Switchboard where
  lexer : Lexer
  shelves : List (Text × Input)

namespace Switchboard

/-- A switchboard with nothing put away. -/
def ofSource (source : Source) : Switchboard := ⟨.ofSource source, []⟩

/-- The input being read. -/
def installed (board : Switchboard) : Input := board.lexer.input

/-- The input put away under a label. -/
def shelved? (board : Switchboard) (label : Text) : Option Input := board.shelves.lookup label

/-- What can be done with a switchboard. -/
inductive Command where
  /-- Read one token from the installed input. -/
  | read
  /-- Read the installed input to its end. -/
  | readAll
  /-- Put the installed input away under a label, and install a new source. -/
  | swap (label : Text) (source : Source)
  /-- Exchange the installed input with the one under a label. -/
  | exchange (label : Text)
  /-- Drop the installed input, and install the one under a label, which is then free. -/
  | install (label : Text)

/-- What a command brought to light. -/
inductive Answer where
  /-- The token that was read. -/
  | token (token : Token)
  /-- The tokens up to the end of the input, without the end-of-input token. -/
  | tokens (tokens : List Token)
  /-- The input that was put away. -/
  | saved (input : Input)
  /-- An input was installed in place of the former one. -/
  | installed
  /-- Nothing was put away under the label, and nothing has changed. -/
  | missing

/-- Puts an input away under a label in place of what was there. -/
def store (shelves : List (Text × Input)) (label : Text) (input : Input) : List (Text × Input) :=
  (label, input) :: discard shelves label
where
  /-- Frees a label. -/
  discard (shelves : List (Text × Input)) (label : Text) : List (Text × Input) :=
    shelves.filter fun shelf => shelf.1 ≠ label

/-- Carries out one command. -/
def perform (board : Switchboard) : Command → Answer × Switchboard
  | .read => (.token board.lexer.read.1, { board with lexer := board.lexer.read.2 })
  | .readAll => (.tokens board.lexer.readAll.1, { board with lexer := board.lexer.readAll.2 })
  | .swap label source =>
    (.saved board.installed,
      ⟨board.lexer.install (.ofSource source), store board.shelves label board.installed⟩)
  | .exchange label =>
    match board.shelved? label with
    | some input =>
      (.saved board.installed,
        ⟨board.lexer.install input, store board.shelves label board.installed⟩)
    | none => (.missing, board)
  | .install label =>
    match board.shelved? label with
    | some input => (.installed, ⟨board.lexer.install input, store.discard board.shelves label⟩)
    | none => (.missing, board)

/-- The switchboard after a list of commands. -/
def performAll (board : Switchboard) (commands : List Command) : Switchboard :=
  commands.foldl (fun current command => (current.perform command).2) board

end Switchboard

end Literate
