/-
This file proves what reading does while inputs are exchanged for one another. A
property that holds of every source at its start, and that reading a token keeps,
holds of all inputs of a switchboard, the installed one and those put away,
whatever commands led there. In particular all of them have been read up to some
character, and reading any of them takes the first token of what is unread.
-/

import Literate.Proofs.Lexing
import Literate.Switchboard

namespace Literate

namespace Switchboard

/-! ### The installed input -/

theorem token_read (board : Switchboard) : board.lexer.read.1 = board.installed.read.1 :=
  board.lexer.token_read

theorem installed_read (board : Switchboard) :
    (board.perform .read).2.installed = board.installed.read.2 := board.lexer.input_read

theorem installed_readAll (board : Switchboard) :
    (board.perform .readAll).2.installed = board.installed.readAll.2 := board.lexer.readAll_eq.2

/-! ### What all inputs of a switchboard keep -/

/-- A property holds of the installed input and of all those put away. -/
def All (property : Input → Prop) (board : Switchboard) : Prop :=
  property board.installed ∧ ∀ shelf ∈ board.shelves, property shelf.2

section

variable {property : Input → Prop}

theorem shelved_of_all {board : Switchboard} (all : board.All property) {label : Text}
    {input : Input} (found : board.shelved? label = some input) : property input := by
  obtain ⟨before, behind, same, _⟩ := List.lookup_eq_some_iff.mp found
  refine all.2 (label, input) ?_
  rw [same]
  exact List.mem_append_right before List.mem_cons_self

theorem discard_of_all {shelves : List (Text × Input)}
    (all : ∀ shelf ∈ shelves, property shelf.2) (label : Text) :
    ∀ shelf ∈ store.discard shelves label, property shelf.2 :=
  fun shelf member => all shelf (List.mem_filter.mp member).1

theorem store_of_all {shelves : List (Text × Input)} (all : ∀ shelf ∈ shelves, property shelf.2)
    (label : Text) {input : Input} (holds : property input) :
    ∀ shelf ∈ store shelves label input, property shelf.2 := by
  intro shelf member
  rcases List.mem_cons.mp member with rfl | kept
  · exact holds
  · exact discard_of_all all label shelf kept

theorem readAll_of_read (step : ∀ input : Input, property input → property input.read.2)
    (input : Input) (holds : property input) : property input.readAll.2 := by
  induction input using Input.reading_induction with
  | ended input ended =>
    rw [Input.readAll_of_next?_eq_none ended]
    exact holds
  | more input more inductionHypothesis =>
    rw [Input.readAll_of_next?_ne_none more]
    exact inductionHypothesis (step input holds)

theorem perform_of_all (fresh : ∀ source, property (.ofSource source))
    (step : ∀ input : Input, property input → property input.read.2) {board : Switchboard}
    (all : board.All property) (command : Command) : (board.perform command).2.All property := by
  cases command with
  | read =>
    refine ⟨?_, all.2⟩
    rw [installed_read]
    exact step _ all.1
  | readAll =>
    refine ⟨?_, all.2⟩
    rw [installed_readAll]
    exact readAll_of_read step _ all.1
  | swap label source => exact ⟨fresh source, store_of_all all.2 label all.1⟩
  | exchange label =>
    rw [perform]
    split
    · exact ⟨shelved_of_all all ‹_›, store_of_all all.2 label all.1⟩
    · exact all
  | install label =>
    rw [perform]
    split
    · exact ⟨shelved_of_all all ‹_›, discard_of_all all.2 label⟩
    · exact all

/-- What every source has at its start and every token keeps, all inputs have after any
commands. -/
theorem performAll_of_all (fresh : ∀ source, property (.ofSource source))
    (step : ∀ input : Input, property input → property input.read.2) (board : Switchboard)
    (all : board.All property) (commands : List Command) :
    (board.performAll commands).All property := by
  induction commands generalizing board with
  | nil => exact all
  | cons command commands inductionHypothesis =>
    exact inductionHypothesis _ (perform_of_all fresh step all command)

end

theorem underway_performAll (source : Source) (commands : List Command) :
    ((ofSource source).performAll commands).All Input.Underway :=
  performAll_of_all Input.underway_ofSource (fun _ underway => underway.read) (ofSource source)
    ⟨Input.underway_ofSource source, fun _ member => absurd member List.not_mem_nil⟩ commands

/-! ### The token that is read -/

/-- Reading is the longest match with fallback. Whatever was read and exchanged before, the token
read is the one first token that the grammar of delimiters gives to the unread characters, and
they lose exactly its text. At the end of an input the end-of-input token is read and nothing
changes. The inputs put away are not touched. -/
theorem read_longest_match (source : Source) (commands : List Command) :
    let board := (ofSource source).performAll commands
    let unread := board.installed.unread
    ∃ token after, board.perform .read = (.token token, { board with lexer := after }) ∧
      (unread ≠ [] →
        (∀ lexeme, FirstLexeme unread lexeme ↔ lexeme = ⟨token.kind, token.text⟩) ∧
          unread = token.text ++ after.input.unread) ∧
      (unread = [] →
        token.kind = .endOfInput ∧ token.text = [] ∧ after.input = board.installed) := by
  intro board unread
  have underway := (underway_performAll source commands).1
  have moved : board.lexer.read.2.input = board.installed.read.2 := board.installed_read
  refine ⟨board.lexer.read.1, board.lexer.read.2, rfl, ?_⟩
  rw [board.token_read, moved]
  refine ⟨?_, ?_⟩
  · intro more
    refine ⟨fun lexeme => ⟨fun isFirst => isFirst.unique (Input.firstLexeme_read more), ?_⟩,
      underway.unread_read⟩
    rintro rfl
    exact Input.firstLexeme_read more
  · intro ended
    rw [Input.read_of_unread_eq_nil ended]
    exact ⟨rfl, rfl, rfl⟩

/-- The character put back behind a reference starts the end of a macro body. -/
theorem read_longest_match_behind_reference :
    let board := (ofSource ⟨[], ['<', '<', 'a', '>', '>', '>', '>', '@', '<', '<', '=']⟩).performAll
      [.read]
    board.installed.pending = ['>'] ∧
      FirstLexeme ['>', '>', '@', '<', '<', '='] ⟨.macroEnd, ['>', '>', '@', '<', '<']⟩ := by
  intro board
  refine ⟨by decide, ?_⟩
  obtain ⟨token, after, performed, more, _⟩ := read_longest_match
    ⟨[], ['<', '<', 'a', '>', '>', '>', '>', '@', '<', '<', '=']⟩ [.read]
  obtain ⟨first, _⟩ := more (by decide)
  cases performed
  exact (first _).mpr (by decide)

end Switchboard

end Literate
