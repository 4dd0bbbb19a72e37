/-
This file reads tokens with a lexer. Besides the input that is being read, a lexer holds
the token that it is at: the characters accepted so far, and the line and column at
which the first of them was read. Installing another input leaves these as they are, so
that they stand there from whatever was read last. Every token starts with clearing
them, and only then is anything accepted.
-/

import Literate.Input

namespace Literate

/-- An input being read, and the token that reading is at or was at last. -/
structure Lexer where
  input : Input
  buffer : Text
  startLine : Nat
  startColumn : Nat
  deriving DecidableEq

namespace Lexer

/-- A lexer before the first character of a source. -/
def ofSource (source : Source) : Lexer := ⟨.ofSource source, [], 0, 0⟩

/-- Installs another input. What was being read stays. -/
def install (lexer : Lexer) (input : Input) : Lexer := { lexer with input }

/-- Starts a token where the counters are, with nothing accepted yet. -/
def start (lexer : Lexer) : Lexer :=
  { lexer with buffer := [], startLine := lexer.input.line, startColumn := lexer.input.column }

/-- Accepts characters as part of the token. -/
def accept (lexer : Lexer) (characters : Text) : Lexer :=
  { lexer with buffer := lexer.buffer ++ characters }

/-- The token that has been accepted, as one of the given kind. -/
def finish (lexer : Lexer) (kind : TokenKind) : Token :=
  ⟨kind, lexer.buffer,
    .ofStart lexer.input.source lexer.startLine lexer.startColumn lexer.buffer.length⟩

/-- Reads one token. It starts behind its first character, when the counters include that one. At
the end of the input an empty token is read again and again. -/
def read (lexer : Lexer) : Token × Lexer :=
  match lexer.input.next? with
  | none => (lexer.start.finish .endOfInput, lexer.start)
  | some (first, after) =>
    let lexeme := Lexeme.scan first after.unread
    let accepted := (lexer.install after).start.accept lexeme.text
    let consumed := after.skip (lexeme.text.length - 1)
    let scanned := accepted.install
      (if lexeme.kind = .macroReference then consumed.lookAhead else consumed)
    (scanned.finish lexeme.kind, scanned)

/-- Reading moves the input of a lexer on as it moves the input alone. -/
theorem input_read (lexer : Lexer) : lexer.read.2.input = lexer.input.read.2 := by
  cases found : lexer.input.next? with
  | none =>
    simp only [read, Input.read, found]
    rfl
  | some step =>
    simp only [read, Input.read, found]
    rfl

/-- Reads all tokens up to the end of the input. The end-of-input token is read as well, and left
out. -/
def readAll (lexer : Lexer) : List Token × Lexer :=
  if _ : lexer.input.next? = none then ([], lexer.read.2)
  else
    let step := lexer.read
    let remainder := step.2.readAll
    (step.1 :: remainder.1, remainder.2)
  termination_by lexer.input.unread.length
  decreasing_by
    rw [input_read]
    exact Input.length_unread_read_lt ‹_›

end Lexer

end Literate
