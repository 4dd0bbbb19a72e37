/-
This file proves that reading takes the tokens of a text one after the other and
always knows where it stands. The line and the column that a text has come to are
functions of the text alone. The counters of an input run ahead of its tokens by
the character that was looked at behind a reference and put back; so the invariant
that links the two speaks about the characters read together with those put back.
It holds of every source at its start and is kept by every token that is read.

From one token the statements go on to all tokens of a source: together they are
its text, none of them is empty, and each stands at the line and the column of its
first character.
-/

import Literate.Input
import Literate.Proofs.FirstToken

namespace Literate

/-! ### Lines and columns of a text -/

namespace Text

/-- The line that a text has come to: one more than the number of its newlines. -/
def lineAfter (text : Text) : Nat := 1 + text.count '\n'

/-- The column that a text has come to: the number of characters after its last newline. -/
def columnAfter (text : Text) : Nat := (text.reverse.takeWhile (· ≠ '\n')).length

theorem lineAfter_concat (text : Text) (last : Char) :
    lineAfter (text ++ [last]) = if last = '\n' then lineAfter text + 1 else lineAfter text := by
  unfold lineAfter
  rw [List.count_append, List.count_singleton]
  by_cases same : last = '\n'
  · simp [same, Nat.add_assoc]
  · simp [same]

theorem columnAfter_concat (text : Text) (last : Char) :
    columnAfter (text ++ [last]) = if last = '\n' then 0 else columnAfter text + 1 := by
  unfold columnAfter
  rw [List.reverse_concat, List.takeWhile_cons]
  by_cases same : last = '\n'
  · simp [same]
  · simp [same]

end Text

namespace Input

/-! ### Where an input stands -/

/-- An input of which the characters `seen` have been read. At most one further character was
looked at and put back, and the counters are those of the text up to it. -/
structure Stands (input : Input) (source : Source) (seen : Text) : Prop where
  name : input.source = source.name
  text : seen ++ input.unread = source.text
  tidy : input.pending.length ≤ 1
  line : input.line = Text.lineAfter (seen ++ input.pending)
  column : input.column = Text.columnAfter (seen ++ input.pending)

theorem stands_ofSource (source : Source) : (ofSource source).Stands source [] :=
  ⟨rfl, rfl, Nat.zero_le 1, rfl, rfl⟩

/-- After a further character nothing is put back any more. -/
theorem Stands.next {input after : Input} {source : Source} {seen : Text} {character : Char}
    (stands : input.Stands source seen) (found : input.next? = some (character, after)) :
    after.Stands source (seen ++ [character]) ∧ after.pending = [] := by
  have remaining : seen ++ [character] ++ after.unread = source.text := by
    rw [← stands.text, unread_next? found, List.append_assoc, List.singleton_append]
  unfold next? at found
  split at found
  · rename_i first pending samePending
    have tidy := stands.tidy
    rw [samePending] at tidy
    obtain rfl : pending = [] := List.eq_nil_of_length_eq_zero (by simpa using tidy)
    cases found
    refine ⟨⟨stands.name, remaining, Nat.zero_le 1, ?_, ?_⟩, rfl⟩
    · rw [List.append_nil]
      exact samePending ▸ stands.line
    · rw [List.append_nil]
      exact samePending ▸ stands.column
  · rename_i first rest samePending sameRest
    have line := stands.line
    have column := stands.column
    rw [samePending, List.append_nil] at line column
    split at found
    · rename_i newline
      cases found
      refine ⟨⟨stands.name, remaining, ?_, ?_, ?_⟩, samePending⟩
      · exact stands.tidy
      · rw [samePending, List.append_nil, Text.lineAfter_concat, if_pos newline, line]
      · rw [samePending, List.append_nil, Text.columnAfter_concat, if_pos newline]
    · rename_i other
      cases found
      refine ⟨⟨stands.name, remaining, ?_, ?_, ?_⟩, samePending⟩
      · exact stands.tidy
      · rw [samePending, List.append_nil, Text.lineAfter_concat, if_neg other, line]
      · rw [samePending, List.append_nil, Text.columnAfter_concat, if_neg other, column]
  · cases found

theorem Stands.skip {input : Input} {source : Source} {seen : Text}
    (stands : input.Stands source seen) (nothingBack : input.pending = []) (count : Nat) :
    (input.skip count).Stands source (seen ++ input.unread.take count) ∧
      (input.skip count).pending = [] := by
  induction count generalizing input seen with
  | zero =>
    rw [List.take_zero, List.append_nil]
    exact ⟨stands, nothingBack⟩
  | succ count inductionHypothesis =>
    rw [Input.skip]
    split
    · rename_i ended
      rw [unread_of_next?_eq_none ended, List.take_nil, List.append_nil]
      exact ⟨stands, nothingBack⟩
    · rename_i character after found
      obtain ⟨afterStands, afterNothing⟩ := stands.next found
      have skipped := inductionHypothesis afterStands afterNothing
      rw [List.append_assoc, List.singleton_append] at skipped
      rw [unread_next? found, List.take_succ_cons]
      exact skipped

theorem Stands.lookAhead {input : Input} {source : Source} {seen : Text}
    (stands : input.Stands source seen) :
    input.lookAhead.Stands source seen := by
  unfold Input.lookAhead
  split
  · exact stands
  · rename_i character after found
    obtain ⟨afterStands, afterNothing⟩ := stands.next found
    have remaining := afterStands.text
    refine ⟨afterStands.name, ?_, ?_, ?_, ?_⟩
    · simpa [unread, afterNothing] using remaining
    · simp [afterNothing]
    · simpa [afterNothing] using afterStands.line
    · simpa [afterNothing] using afterStands.column

/-! ### The name of an input -/

theorem source_next? {input after : Input} {character : Char}
    (found : input.next? = some (character, after)) : after.source = input.source := by
  unfold next? at found
  split at found
  · cases found
    rfl
  · split at found <;> cases found <;> rfl
  · cases found

theorem source_skip (input : Input) (count : Nat) : (input.skip count).source = input.source := by
  induction count generalizing input with
  | zero => rfl
  | succ count inductionHypothesis =>
    rw [skip]
    split
    · rfl
    · rename_i found
      rw [inductionHypothesis, source_next? found]

theorem source_lookAhead (input : Input) : input.lookAhead.source = input.source := by
  unfold lookAhead
  split
  · rfl
  · rename_i character after found
    have same : after.source = input.source := source_next? found
    exact same

/-- Reading never changes the name of an input. -/
theorem source_read (input : Input) : input.read.2.source = input.source := by
  unfold read
  split
  · rfl
  · rename_i found
    dsimp only
    split
    · rw [source_lookAhead, source_skip, source_next? found]
    · rw [source_skip, source_next? found]

/-! ### Reading a token -/

theorem next?_of_unread {input : Input} {first : Char} {rest : Text}
    (more : input.unread = first :: rest) :
    ∃ after, input.next? = some (first, after) ∧ after.unread = rest := by
  cases found : input.next? with
  | none =>
    rw [unread_of_next?_eq_none found] at more
    cases more
  | some step =>
    obtain ⟨character, after⟩ := step
    obtain ⟨same, sameRest⟩ := List.cons_eq_cons.mp ((unread_next? found).symm.trans more)
    exact ⟨after, by rw [same], sameRest⟩

theorem next?_of_unread_eq_nil {input : Input} (ended : input.unread = []) :
    input.next? = none := by
  cases found : input.next? with
  | none => rfl
  | some step =>
    have more := unread_next? found
    rw [ended] at more
    cases more

theorem read_of_unread_eq_nil {input : Input} (ended : input.unread = []) :
    input.read = (input.endToken, input) :=
  read_of_next?_eq_none (next?_of_unread_eq_nil ended)

theorem lexeme_read {input after : Input} {first : Char}
    (found : input.next? = some (first, after)) :
    (⟨input.read.1.kind, input.read.1.text⟩ : Lexeme) = Lexeme.scan first after.unread := by
  simp only [read, found]

/-- What is read is the first token of what was unread. -/
theorem firstLexeme_read {input : Input} (more : input.unread ≠ []) :
    FirstLexeme input.unread ⟨input.read.1.kind, input.read.1.text⟩ := by
  obtain ⟨first, rest, same⟩ := List.exists_cons_of_ne_nil more
  obtain ⟨after, found, sameRest⟩ := next?_of_unread same
  rw [lexeme_read found, same, sameRest]
  exact firstLexeme_scan first rest

/-- The token read belongs to what was seen afterwards, and the counters keep step. -/
theorem Stands.read {input : Input} {source : Source} {seen : Text}
    (stands : input.Stands source seen) :
    input.read.2.Stands source (seen ++ input.read.1.text) := by
  cases found : input.next? with
  | none =>
    rw [read_of_next?_eq_none found]
    exact (List.append_nil seen).symm ▸ stands
  | some step =>
    obtain ⟨first, after⟩ := step
    have isFirst := firstLexeme_scan first after.unread
    obtain ⟨later, same, laterPrefix⟩ := isFirst.exists_cons
    obtain ⟨afterStands, afterNothing⟩ := stands.next found
    obtain ⟨skipped, _⟩ := afterStands.skip afterNothing later.length
    rw [← List.prefix_iff_eq_take.mp laterPrefix, List.append_assoc,
      List.singleton_append] at skipped
    have consumed : after.skip ((Lexeme.scan first after.unread).text.length - 1) =
        after.skip later.length := by rw [same, List.length_cons, Nat.add_sub_cancel]
    simp only [Input.read, found, consumed]
    split
    · exact same ▸ skipped.lookAhead
    · exact same ▸ skipped

theorem Stands.unread_read {input : Input} {source : Source} {seen : Text}
    (stands : input.Stands source seen) :
    input.unread = input.read.1.text ++ input.read.2.unread := by
  have before := stands.text
  have behind := stands.read.text
  rw [List.append_assoc, ← before] at behind
  exact (List.append_cancel_left behind).symm

/-- A token stands where its first character does. -/
theorem Stands.position_read {input : Input} {source : Source} {seen : Text} {first : Char}
    {rest : Text} (stands : input.Stands source seen) (more : input.unread = first :: rest) :
    input.read.1.position = .ofStart source.name (Text.lineAfter (seen ++ [first]))
      (Text.columnAfter (seen ++ [first])) input.read.1.text.length := by
  obtain ⟨after, found, _⟩ := next?_of_unread more
  obtain ⟨afterStands, afterNothing⟩ := stands.next found
  have line := afterStands.line
  have column := afterStands.column
  rw [afterNothing, List.append_nil] at line column
  simp only [Input.read, found, stands.name, line, column]

theorem Stands.endToken {input : Input} {source : Source} {seen : Text}
    (stands : input.Stands source seen) (ended : input.unread = []) :
    input.endToken = ⟨.endOfInput, [], .ofStart source.name (Text.lineAfter source.text)
      (Text.columnAfter source.text) 0⟩ := by
  have nothingBack := (List.append_eq_nil_iff.mp ended).1
  have everything := stands.text
  rw [ended, List.append_nil] at everything
  rw [Input.endToken, stands.name, stands.line, stands.column, nothingBack, List.append_nil,
    everything]

/-- An input that can come up: some part of some source has been read. -/
def Underway (input : Input) : Prop := ∃ source seen, input.Stands source seen

theorem underway_ofSource (source : Source) : (ofSource source).Underway :=
  ⟨source, [], stands_ofSource source⟩

theorem Underway.read {input : Input} (underway : input.Underway) : input.read.2.Underway := by
  obtain ⟨source, seen, stands⟩ := underway
  exact ⟨source, _, stands.read⟩

/-- No character is lost between what was unread, the token, and what is unread after it. -/
theorem Underway.unread_read {input : Input} (underway : input.Underway) :
    input.unread = input.read.1.text ++ input.read.2.unread := by
  obtain ⟨_, _, stands⟩ := underway
  exact stands.unread_read

/-! ### All tokens of an input -/

/-- What holds of every ended input, and of every input as soon as it holds of the input after
its next token, holds of all inputs. -/
@[elab_as_elim]
theorem reading_induction {motive : Input → Prop}
    (ended : ∀ input : Input, input.next? = none → motive input)
    (more : ∀ input : Input, input.next? ≠ none → motive input.read.2 → motive input)
    (input : Input) : motive input :=
  Input.readAll.induct motive ended more input

theorem readAll_of_next?_eq_none {input : Input} (ended : input.next? = none) :
    input.readAll = ([], input) := by
  rw [readAll, dif_pos ended]

theorem readAll_of_next?_ne_none {input : Input} (more : input.next? ≠ none) :
    input.readAll = (input.read.1 :: input.read.2.readAll.1, input.read.2.readAll.2) := by
  rw [readAll, dif_neg more]

/-- Reading all tokens ends with nothing unread, and what was read is the text of the tokens. -/
theorem Stands.readAll {input : Input} {source : Source} {seen : Text}
    (stands : input.Stands source seen) :
    input.readAll.2.Stands source (seen ++ Token.documentOf input.readAll.1) ∧
      input.readAll.2.unread = [] := by
  induction input using reading_induction generalizing seen with
  | ended input ended =>
    rw [readAll_of_next?_eq_none ended]
    exact ⟨(List.append_nil seen).symm ▸ stands, unread_of_next?_eq_none ended⟩
  | more input more inductionHypothesis =>
    rw [readAll_of_next?_ne_none more]
    obtain ⟨remainderStands, nothingLeft⟩ := inductionHypothesis stands.read
    rw [List.append_assoc] at remainderStands
    exact ⟨remainderStands, nothingLeft⟩

/-- Every token of an input stands where its first character does. -/
theorem Stands.position_of_split {input : Input} {source : Source} {seen : Text}
    (stands : input.Stands source seen) {before behind : List Token} {token : Token}
    (split : input.readAll.1 = before ++ token :: behind) :
    ∃ first rest, token.text = first :: rest ∧
      token.position = .ofStart source.name
        (Text.lineAfter (seen ++ Token.documentOf before ++ [first]))
        (Text.columnAfter (seen ++ Token.documentOf before ++ [first])) token.text.length := by
  induction input using reading_induction generalizing seen before with
  | ended input ended =>
    rw [readAll_of_next?_eq_none ended] at split
    exact absurd split.symm (List.append_ne_nil_of_right_ne_nil _ (List.cons_ne_nil _ _))
  | more input more inductionHypothesis =>
    rw [readAll_of_next?_ne_none more] at split
    cases before with
    | nil =>
      obtain ⟨rfl, _⟩ := List.cons_eq_cons.mp split
      have nonempty : input.unread ≠ [] := fun ended => more (next?_of_unread_eq_nil ended)
      obtain ⟨first, rest, same⟩ := List.exists_cons_of_ne_nil nonempty
      have isFirst := firstLexeme_read nonempty
      rw [same] at isFirst
      obtain ⟨later, sameText, _⟩ := isFirst.exists_cons
      refine ⟨first, later, sameText, ?_⟩
      rw [show Token.documentOf [] = [] from rfl, List.append_nil]
      exact stands.position_read same
    | cons earlier before =>
      obtain ⟨rfl, sameRemainder⟩ := List.cons_eq_cons.mp split
      obtain ⟨first, rest, sameText, position⟩ := inductionHypothesis stands.read sameRemainder
      refine ⟨first, rest, sameText, ?_⟩
      rw [position, List.append_assoc seen]
      rfl

end Input

/-- The tokens of a source partition its text, and their places are exact. Written one after the
other they are the text; none is empty; each starts at the line and the column of the text up
to and including its first character, ends on the same line, and ends as many columns further
as it has characters behind the first. The end of the input stands at the line and the column
of the whole text. -/
theorem tokens_partition (source : Source) :
    Token.documentOf source.tokens = source.text ∧
      (∀ token ∈ source.tokens, token.text ≠ []) ∧
      (∀ before token behind first rest, source.tokens = before ++ token :: behind →
        token.text = first :: rest →
          token.position.source = source.name ∧
          token.position.startLine = Text.lineAfter (Token.documentOf before ++ [first]) ∧
          token.position.startColumn = Text.columnAfter (Token.documentOf before ++ [first]) ∧
          token.position.endLine = token.position.startLine ∧
          token.position.endColumn = max token.position.startColumn
            (token.position.startColumn + token.text.length - 1)) ∧
      (Input.ofSource source).readAll.2.read.1 =
        ⟨.endOfInput, [], source.name, Text.lineAfter source.text, Text.columnAfter source.text,
          Text.lineAfter source.text, Text.columnAfter source.text⟩ := by
  have start := Input.stands_ofSource source
  obtain ⟨finish, nothingLeft⟩ := start.readAll
  refine ⟨?_, ?_, ?_, ?_⟩
  · have everything := finish.text
    rwa [nothingLeft, List.append_nil] at everything
  · intro token member
    obtain ⟨before, behind, split⟩ := List.append_of_mem member
    obtain ⟨first, rest, sameText, _⟩ := start.position_of_split split
    exact sameText ▸ List.cons_ne_nil first rest
  · intro before token behind first rest split sameText
    obtain ⟨found, later, foundText, position⟩ := start.position_of_split split
    obtain ⟨rfl, _⟩ := List.cons_eq_cons.mp (sameText.symm.trans foundText)
    rw [position]
    exact ⟨rfl, rfl, rfl, rfl, Nat.max_comm _ _⟩
  · rw [Input.read_of_unread_eq_nil nothingLeft, finish.endToken nothingLeft]
    simp [Position.ofStart]

/-- The newline behind a reference is looked at early, and the token after it still stands in
the first column of the second line. -/
theorem tokens_partition_behind_reference :
    let source : Source := ⟨['d'], ['<', '<', 'a', '>', '>', '\n', 'b', 'c']⟩
    let reference : Token := ⟨.macroReference, ['<', '<', 'a', '>', '>'], ['d'], 1, 1, 1, 5⟩
    let newline : Token := ⟨.passthrough, ['\n'], ['d'], 2, 0, 2, 0⟩
    let token : Token := ⟨.passthrough, ['b'], ['d'], 2, 1, 2, 1⟩
    let last : Token := ⟨.passthrough, ['c'], ['d'], 2, 2, 2, 2⟩
    source.tokens = [reference, newline] ++ token :: [last] ∧
      token.position.startLine = Text.lineAfter ['<', '<', 'a', '>', '>', '\n', 'b'] ∧
      token.position.startColumn = Text.columnAfter ['<', '<', 'a', '>', '>', '\n', 'b'] := by
  intro source reference newline token last
  have split : source.tokens = [reference, newline] ++ token :: [last] := by decide +kernel
  obtain ⟨_, line, column, _⟩ :=
    (tokens_partition source).2.2.1 [reference, newline] token [last] 'b' [] split rfl
  exact ⟨split, line, column⟩

end Literate
