/-
This file proves that a lexer reads what its input holds and nothing else. The buffer and
the place where a token starts belong to the lexer and not to the input, so they are left
over when inputs are exchanged; but reading clears them before it accepts anything. So
two lexers with the same input read the same token and are equal afterwards, and the
token is the one that the input alone gives.
-/

import Literate.Lexer
import Literate.Proofs.Reading

namespace Literate.Lexer

/-- Reading depends on the input of a lexer only, whatever was left over from other inputs. -/
theorem read_of_input_eq {first second : Lexer} (same : first.input = second.input) :
    first.read = second.read := by
  obtain ⟨input, buffer, line, column⟩ := first
  obtain ⟨_, _, _, _⟩ := second
  obtain rfl : input = _ := same
  unfold read
  dsimp only
  split <;> rfl

/-- A lexer reads the token that its input alone gives. -/
theorem token_read (lexer : Lexer) : lexer.read.1 = lexer.input.read.1 := by
  cases found : lexer.input.next? with
  | none =>
    simp only [read, Input.read, found]
    rfl
  | some step =>
    obtain ⟨first, after⟩ := step
    have sameName : (if (Lexeme.scan first after.unread).kind = .macroReference then
        (after.skip ((Lexeme.scan first after.unread).text.length - 1)).lookAhead
      else after.skip ((Lexeme.scan first after.unread).text.length - 1)).source =
        lexer.input.source := by
      split
      · rw [Input.source_lookAhead, Input.source_skip, Input.source_next? found]
      · rw [Input.source_skip, Input.source_next? found]
    simp only [read, Input.read, found, finish, install, accept, start, sameName,
      List.nil_append]

/-- A lexer reads all tokens that its input alone gives, and moves it to its end. -/
theorem readAll_eq (lexer : Lexer) :
    lexer.readAll.1 = lexer.input.readAll.1 ∧
      lexer.readAll.2.input = lexer.input.readAll.2 := by
  fun_induction readAll lexer with
  | case1 lexer ended =>
    rw [Input.readAll_of_next?_eq_none ended, input_read, Input.read_of_next?_eq_none ended]
    exact ⟨rfl, rfl⟩
  | case2 lexer more step remainder inductionHypothesis =>
    rw [Input.readAll_of_next?_ne_none more, ← token_read, ← input_read]
    exact ⟨congrArg _ inductionHypothesis.1, inductionHypothesis.2⟩

end Literate.Lexer
