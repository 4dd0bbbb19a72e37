/-
This file proves that text written behind a document changes at most its last token.
A token is cut off at the first character that ends it or breaks it, and that character
is in the token or directly behind it. So a token that has something behind it was cut
without looking any further, and it is cut in the same way whatever more there is. Only
the last token may have ended because the text did.

Following a shape, scanning, and reading are compared on a text and on the same text with
more behind it. As long as something is left of the shorter text, all three do the same
on both, and the longer input stays the shorter one with more behind it, counters and
characters put back included.
-/

import Literate.Proofs.Reading

namespace Literate

/-! ### Shapes and first tokens -/

namespace Pattern

theorem consumed_follow_nil (steps : Pattern) : (follow steps []).consumed = [] :=
  List.prefix_nil.mp (consumed_prefix_text steps [])

/-- A shape that was completed or broken in front of the end of a text has not seen the end. -/
theorem follow_append_of_stopped {steps : Pattern} {text : Text}
    (stopped : (follow steps text).consumed ≠ text) (more : Text) :
    follow steps (text ++ more) = follow steps text := by
  fun_induction follow steps text with
  | case1 => rw [follow]
  | case2 | case5 => exact absurd rfl stopped
  | case3 steps first rest inductionHypothesis =>
    have stoppedLater : (follow steps rest).consumed ≠ rest :=
      fun whole => stopped (congrArg (first :: ·) whole)
    rw [List.cons_append, follow, if_pos rfl, inductionHypothesis stoppedLater]
  | case4 character steps first rest different => rw [List.cons_append, follow, if_neg different]
  | case6 excluded steps first rest forbidden => rw [List.cons_append, follow, if_pos forbidden]
  | case7 excluded steps first rest allowed inductionHypothesis =>
    have split := List.takeWhile_append_dropWhile (p := fun c => decide (c ∉ excluded)) (l := rest)
    have stoppedLater : (follow steps (rest.dropWhile (· ∉ excluded))).consumed ≠
        rest.dropWhile (· ∉ excluded) := by
      intro whole
      refine stopped (congrArg (first :: ·) ?_)
      show rest.takeWhile _ ++ Trail.consumed _ = rest
      rw [whole, split]
    -- A run that comes to the end of the text has used up all of it.
    have ended : rest.dropWhile (· ∉ excluded) ≠ [] := by
      intro nothing
      rw [nothing] at stoppedLater
      exact stoppedLater (consumed_follow_nil steps)
    obtain ⟨mark, after, found⟩ := List.exists_cons_of_ne_nil ended
    have shape : first :: rest ++ more =
        (first :: rest.takeWhile (· ∉ excluded)) ++ mark :: (after ++ more) := by
      conv => lhs; rw [← split, found]
      simp
    have sameLater := inductionHypothesis stoppedLater
    rw [found, List.cons_append] at sameLater
    rw [shape, follow_run_append (List.cons_ne_nil _ _) (run_avoids allowed rest)
      (mem_excluded_of_dropWhile found), sameLater, found]

end Pattern

namespace Lexeme

theorem delimiterOr_append {kind : TokenKind} {shape : Pattern} {text : Text}
    (part : (delimiterOr kind shape text).text ≠ text) (more : Text) :
    delimiterOr kind shape (text ++ more) = delimiterOr kind shape text := by
  rw [delimiterOr, delimiterOr, Pattern.follow_append_of_stopped part]

/-- Whether a reference opens a body depends on the character behind it, if there is one. -/
theorem promote_append {lexeme : Lexeme} {text : Text} (isPrefix : lexeme.text <+: text)
    (part : lexeme.text ≠ text) (more : Text) :
    lexeme.promote (text ++ more) = lexeme.promote text := by
  obtain ⟨behind, rfl⟩ := isPrefix
  have further : behind ≠ [] := by
    rintro rfl
    exact part (List.append_nil _).symm
  obtain ⟨next, later, rfl⟩ := List.exists_cons_of_ne_nil further
  rw [promote, promote, List.append_assoc, List.drop_left, List.drop_left, List.cons_append]
  cases lexeme.kind with
  | macroReference => by_cases same : next = '=' <;> simp [same]
  | endOfInput | macroStart | macroEnd | passthrough | textSubstitution | specialDirective => rfl

theorem promote_of_whole {lexeme : Lexeme} {text : Text} (whole : lexeme.text = text) :
    lexeme.promote text = lexeme := by
  rw [promote, whole, List.drop_length]
  cases lexeme.kind <;> rfl

/-- The first token of a text is the same with more behind the text, unless it is all of it. -/
theorem scan_append {first : Char} {rest : Text}
    (part : (scan first rest).text ≠ first :: rest) (more : Text) :
    scan first (rest ++ more) = scan first rest := by
  unfold scan at part ⊢
  rw [← List.cons_append]
  split at part
  · rename_i isOpening
    have partFollowed : (delimiterOr .macroReference .macroReference (first :: rest)).text ≠
        first :: rest := fun whole => part (by rw [promote_of_whole whole, whole])
    simp only [if_pos isOpening, delimiterOr_append partFollowed,
      promote_append (Pattern.consumed_prefix_text _ _) partFollowed]
  split at part
  · rename_i notOpening isClosing
    simp only [if_neg notOpening, if_pos isClosing, delimiterOr_append part]
  split at part
  · rename_i notOpening notClosing isPercent
    simp only [if_neg notOpening, if_neg notClosing, if_pos isPercent, delimiterOr_append part]
  split at part
  · rename_i notOpening notClosing notPercent isHash
    simp only [if_neg notOpening, if_neg notClosing, if_neg notPercent, if_pos isHash,
      delimiterOr_append part]
  · rename_i notOpening notClosing notPercent notHash
    simp only [if_neg notOpening, if_neg notClosing, if_neg notPercent, if_neg notHash]

end Lexeme

/-! ### Inputs with more behind them -/

namespace Input

/-- An input with more text behind what is still to come. -/
def followedBy (input : Input) (more : Text) : Input := { input with rest := input.rest ++ more }

theorem unread_followedBy (input : Input) (more : Text) :
    (input.followedBy more).unread = input.unread ++ more :=
  (List.append_assoc _ _ _).symm

theorem next?_followedBy {input after : Input} {character : Char}
    (found : input.next? = some (character, after)) (more : Text) :
    (input.followedBy more).next? = some (character, after.followedBy more) := by
  rw [next?] at found
  split at found
  · rename_i samePending
    cases found
    simp [followedBy, next?, samePending]
  · rename_i samePending sameRest
    split at found
    · rename_i newline
      cases found
      simp [followedBy, next?, samePending, sameRest, newline]
    · rename_i other
      cases found
      simp [followedBy, next?, samePending, sameRest, other]
  · cases found

theorem skip_followedBy {input : Input} {count : Nat} (enough : count ≤ input.unread.length)
    (more : Text) : (input.followedBy more).skip count = (input.skip count).followedBy more := by
  induction count generalizing input with
  | zero => rfl
  | succ count inductionHypothesis =>
    cases found : input.next? with
    | none =>
      rw [unread_of_next?_eq_none found] at enough
      exact absurd enough (Nat.not_succ_le_zero count)
    | some step =>
      obtain ⟨character, after⟩ := step
      have enoughLater : count ≤ after.unread.length := by
        rw [unread_next? found, List.length_cons] at enough
        exact Nat.le_of_succ_le_succ enough
      simp only [skip, found, next?_followedBy found]
      exact inductionHypothesis enoughLater

theorem lookAhead_followedBy {input : Input} (further : input.unread ≠ []) (more : Text) :
    (input.followedBy more).lookAhead = input.lookAhead.followedBy more := by
  obtain ⟨first, rest, same⟩ := List.exists_cons_of_ne_nil further
  obtain ⟨after, found, _⟩ := next?_of_unread same
  simp only [lookAhead, found, next?_followedBy found]
  rfl

/-- A token with something unread behind it is read in the same way with more behind that. -/
theorem read_followedBy {input : Input} (further : input.read.2.unread ≠ []) (more : Text) :
    (input.followedBy more).read = (input.read.1, input.read.2.followedBy more) := by
  cases found : input.next? with
  | none =>
    rw [read_of_next?_eq_none found] at further
    exact absurd (unread_of_next?_eq_none found) further
  | some step =>
    obtain ⟨first, after⟩ := step
    have sameLength : input.read.2.unread.length =
        (after.skip ((Lexeme.scan first after.unread).text.length - 1)).unread.length := by
      simp only [read, found]
      split
      · exact length_unread_lookAhead _
      · rfl
    have behind : (after.skip ((Lexeme.scan first after.unread).text.length - 1)).unread ≠ [] := by
      rw [← List.length_pos_iff, ← sameLength]
      exact List.length_pos_iff.mpr further
    have part : (Lexeme.scan first after.unread).text ≠ first :: after.unread := by
      intro whole
      rw [whole, unread_skip, List.length_cons, Nat.add_sub_cancel, List.drop_length] at behind
      exact behind rfl
    have enough : (Lexeme.scan first after.unread).text.length - 1 ≤ after.unread.length :=
      Nat.sub_le_of_le_add (firstLexeme_scan first after.unread).isPrefix.length_le
    simp only [read, found, next?_followedBy found, unread_followedBy, Lexeme.scan_append part,
      skip_followedBy enough]
    split
    · rw [lookAhead_followedBy behind]
      rfl
    · rfl

/-- Reading goes on in the same way with more behind an input until the last token is reached. -/
theorem dropLast_readAll_followedBy (input : Input) (more : Text) :
    input.readAll.1.dropLast <+: (input.followedBy more).readAll.1 := by
  induction input using reading_induction with
  | ended input ended =>
    rw [readAll_of_next?_eq_none ended]
    exact List.nil_prefix
  | more input notEnded inductionHypothesis =>
    rw [readAll_of_next?_ne_none notEnded]
    by_cases last : input.read.2.unread = []
    · rw [readAll_of_next?_eq_none (next?_of_unread_eq_nil last)]
      exact List.nil_prefix
    · have notLast : input.read.2.next? ≠ none := fun ended => last (unread_of_next?_eq_none ended)
      obtain ⟨step, found⟩ := Option.ne_none_iff_exists'.mp notEnded
      have notEndedToo : (input.followedBy more).next? ≠ none :=
        Option.ne_none_iff_exists'.mpr ⟨_, next?_followedBy found more⟩
      have someLeft : input.read.2.readAll.1 ≠ [] := by
        rw [readAll_of_next?_ne_none notLast]
        exact List.cons_ne_nil _ _
      rw [readAll_of_next?_ne_none notEndedToo, read_followedBy last,
        List.dropLast_cons_of_ne_nil someLeft]
      exact List.cons_prefix_cons.mpr ⟨rfl, inductionHypothesis⟩

end Input

/-- Text written behind a source changes at most the last token. All tokens of a source but the
last are, with their kinds, texts and places, the first tokens of the source with more text. -/
theorem dropLast_tokens_prefix (name text more : Text) :
    (Source.tokens ⟨name, text⟩).dropLast <+: Source.tokens ⟨name, text ++ more⟩ :=
  Input.dropLast_readAll_followedBy (.ofSource ⟨name, text⟩) more

-- The last token may change: here the text behind it completes a substitution.
example : (Source.tokens ⟨['d'], ['x', '%', '[', 'k']⟩).map Token.kind =
      [.passthrough, .passthrough] ∧
    (Source.tokens ⟨['d'], ['x', '%', '[', 'k', ']', '%']⟩).map Token.kind =
      [.passthrough, .textSubstitution] := by
  decide +kernel

end Literate
