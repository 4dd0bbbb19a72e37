/-
This file proves that the first token of a text is what the grammar of delimiters
says it is. The grammar is stated without any procedure: which texts are
delimiters, and of which kind. The first token of a text is the longest delimiter
that the text starts with. A text that starts with none is cut behind the first
character with which no delimiter goes on, and is one token as a whole if there is
no such character.

Of the four characters that can start a delimiter three leave a single shape to
follow. The fourth starts both references and macro starts; since every reference
is the beginning of a macro start, one shape again tells which texts can still be
completed.
-/

import Literate.Proofs.Following
import Literate.Token.Lexeme

namespace Literate

/-! ### The grammar of delimiters -/

/-- The texts that are delimiters, with the kind of token they are. -/
inductive Delimiter : TokenKind → Text → Prop where
  | macroStart {name : Text} : name ≠ [] → '>' ∉ name → '\n' ∉ name →
      Delimiter .macroStart ('<' :: '<' :: name ++ ['>', '>', '='])
  | macroReference {name : Text} : name ≠ [] → '>' ∉ name → '\n' ∉ name →
      Delimiter .macroReference ('<' :: '<' :: name ++ ['>', '>'])
  | macroEnd : Delimiter .macroEnd ['>', '>', '@', '<', '<']
  | textSubstitution {inner : Text} : inner ≠ [] → ']' ∉ inner →
      Delimiter .textSubstitution ('%' :: '[' :: inner ++ [']', '%'])
  | specialDirective {key value : Text} : key ≠ [] → '=' ∉ key → value ≠ [] → ']' ∉ value →
      Delimiter .specialDirective ('#' :: '[' :: key ++ '=' :: value ++ [']'])

/-- The texts that some delimiter starts with. -/
def DelimiterPrefix (text : Text) : Prop := ∃ kind word, Delimiter kind word ∧ text <+: word

/-- What the first token of a text is. -/
inductive FirstLexeme (text : Text) : Lexeme → Prop where
  /-- The longest delimiter that the text starts with. -/
  | delimiter {kind : TokenKind} {word : Text} : Delimiter kind word → word <+: text →
      (∀ otherKind other, Delimiter otherKind other → other <+: text →
        other.length ≤ word.length) →
      FirstLexeme text ⟨kind, word⟩
  /-- The shortest beginning of the text with which no delimiter starts. -/
  | broken {piece : Text} : (∀ kind word, Delimiter kind word → ¬ word <+: text) →
      piece <+: text → ¬ DelimiterPrefix piece →
      (∀ other, other <+: text → ¬ DelimiterPrefix other → piece.length ≤ other.length) →
      FirstLexeme text ⟨.passthrough, piece⟩
  /-- The whole text, when some delimiter starts with each of its beginnings. -/
  | unfinished : (∀ kind word, Delimiter kind word → ¬ word <+: text) →
      (∀ piece, piece <+: text → DelimiterPrefix piece) →
      FirstLexeme text ⟨.passthrough, text⟩

theorem delimiterPrefix_nil : DelimiterPrefix [] :=
  ⟨.macroEnd, _, .macroEnd, List.nil_prefix⟩

theorem DelimiterPrefix.mono {text piece : Text} (delimiting : DelimiterPrefix text)
    (isPrefix : piece <+: text) : DelimiterPrefix piece := by
  obtain ⟨kind, word, isDelimiter, textPrefix⟩ := delimiting
  exact ⟨kind, word, isDelimiter, isPrefix.trans textPrefix⟩

theorem Delimiter.ne_nil {kind : TokenKind} {word : Text} (isDelimiter : Delimiter kind word) :
    word ≠ [] := by
  cases isDelimiter <;> exact List.cons_ne_nil _ _

theorem Delimiter.exists_cons {kind : TokenKind} {word rest : Text} {first : Char}
    (isDelimiter : Delimiter kind word) (isPrefix : word <+: first :: rest) :
    ∃ later, word = first :: later := by
  rcases List.prefix_cons_iff.mp isPrefix with empty | ⟨later, same, _⟩
  · exact absurd empty isDelimiter.ne_nil
  · exact ⟨later, same⟩

/-- A text is a delimiter of at most one kind. -/
theorem Delimiter.kind_unique {first second : TokenKind} {word : Text}
    (isFirst : Delimiter first word) (isSecond : Delimiter second word) : first = second := by
  generalize same : word = other at isSecond
  have starts := congrArg List.head? same
  have ends := congrArg (fun text => text.reverse.head?) same
  cases isFirst <;> cases isSecond <;> simp at starts ends ⊢

/-- The grammar leaves no choice: a text has one first token. -/
theorem FirstLexeme.unique {text : Text} {first second : Lexeme}
    (isFirst : FirstLexeme text first) (isSecond : FirstLexeme text second) : first = second := by
  cases isFirst with
  | delimiter firstDelimiter firstPrefix firstLongest =>
    cases isSecond with
    | delimiter secondDelimiter secondPrefix secondLongest =>
      have noLonger := firstLongest _ _ secondDelimiter secondPrefix
      have noShorter := secondLongest _ _ firstDelimiter firstPrefix
      have same := (List.prefix_of_prefix_length_le firstPrefix secondPrefix noShorter).eq_of_length
        (Nat.le_antisymm noShorter noLonger)
      subst same
      rw [firstDelimiter.kind_unique secondDelimiter]
    | broken none => exact absurd firstPrefix (none _ _ firstDelimiter)
    | unfinished none => exact absurd firstPrefix (none _ _ firstDelimiter)
  | broken firstNone firstPrefix firstBreaks firstShortest =>
    cases isSecond with
    | delimiter secondDelimiter secondPrefix =>
      exact absurd secondPrefix (firstNone _ _ secondDelimiter)
    | broken _ secondPrefix secondBreaks secondShortest =>
      have noLonger := firstShortest _ secondPrefix secondBreaks
      have noShorter := secondShortest _ firstPrefix firstBreaks
      rw [(List.prefix_of_prefix_length_le firstPrefix secondPrefix noLonger).eq_of_length
        (Nat.le_antisymm noLonger noShorter)]
    | unfinished _ completable => exact absurd (completable _ firstPrefix) firstBreaks
  | unfinished firstNone completable =>
    cases isSecond with
    | delimiter secondDelimiter secondPrefix =>
      exact absurd secondPrefix (firstNone _ _ secondDelimiter)
    | broken _ secondPrefix secondBreaks => exact absurd (completable _ secondPrefix) secondBreaks
    | unfinished => rfl

/-- The first token of a text is some beginning of it. -/
theorem FirstLexeme.isPrefix {text : Text} {lexeme : Lexeme} (isFirst : FirstLexeme text lexeme) :
    lexeme.text <+: text := by
  cases isFirst with
  | delimiter _ isPrefix => exact isPrefix
  | broken _ isPrefix => exact isPrefix
  | unfinished => exact List.prefix_rfl

/-- The first token of a text takes at least one character of it. -/
theorem FirstLexeme.ne_nil {text : Text} {lexeme : Lexeme} (isFirst : FirstLexeme text lexeme)
    (nonempty : text ≠ []) : lexeme.text ≠ [] := by
  cases isFirst with
  | delimiter isDelimiter => exact isDelimiter.ne_nil
  | broken _ _ breaks =>
    intro empty
    obtain rfl : _ = [] := empty
    exact breaks delimiterPrefix_nil
  | unfinished => exact nonempty

theorem FirstLexeme.exists_cons {first : Char} {rest : Text} {lexeme : Lexeme}
    (isFirst : FirstLexeme (first :: rest) lexeme) :
    ∃ later, lexeme.text = first :: later ∧ later <+: rest := by
  rcases List.prefix_cons_iff.mp isFirst.isPrefix with empty | found
  · exact absurd empty (isFirst.ne_nil (List.cons_ne_nil _ _))
  · exact found

/-! ### Delimiters as words of their shapes -/

namespace Pattern

theorem avoids_one_iff {mark : Char} {text : Text} :
    (∀ character ∈ text, character ∉ [mark]) ↔ mark ∉ text := by
  simp only [List.mem_singleton]
  exact ⟨fun avoids member => avoids mark member rfl,
    fun absent character member same => absent (same ▸ member)⟩

theorem avoids_two_iff {first second : Char} {text : Text} :
    (∀ character ∈ text, character ∉ [first, second]) ↔ first ∉ text ∧ second ∉ text := by
  simp only [List.mem_cons, List.not_mem_nil, or_false, not_or]
  constructor
  · intro avoids
    exact ⟨fun member => (avoids first member).1 rfl, fun member => (avoids second member).2 rfl⟩
  · rintro ⟨noFirst, noSecond⟩ character member
    exact ⟨fun same => noFirst (same ▸ member), fun same => noSecond (same ▸ member)⟩

theorem word_macroReference_iff {word : Text} :
    macroReference.Word word ↔ Delimiter .macroReference word := by
  simp only [macroReference, word_exactly_iff, word_runAvoiding_iff, word_nil_iff, avoids_two_iff]
  constructor
  · rintro ⟨_, ⟨_, ⟨name, _, nonempty, ⟨noMark, noBreak⟩, ⟨_, ⟨_, rfl, rfl⟩, rfl⟩, rfl⟩, rfl⟩, rfl⟩
    exact .macroReference nonempty noMark noBreak
  · rintro (_ | ⟨nonempty, noMark, noBreak⟩)
    exact ⟨_, ⟨_, ⟨_, _, nonempty, ⟨noMark, noBreak⟩, ⟨_, ⟨_, rfl, rfl⟩, rfl⟩, rfl⟩, rfl⟩, rfl⟩

theorem word_macroStart_iff {word : Text} :
    macroStart.Word word ↔ Delimiter .macroStart word := by
  simp only [macroStart, macroReference, List.cons_append, List.nil_append, word_exactly_iff,
    word_runAvoiding_iff, word_nil_iff, avoids_two_iff]
  constructor
  · rintro ⟨_, ⟨_, ⟨name, _, nonempty, ⟨noMark, noBreak⟩, ⟨_, ⟨_, ⟨_, rfl, rfl⟩, rfl⟩, rfl⟩, rfl⟩,
      rfl⟩, rfl⟩
    exact .macroStart nonempty noMark noBreak
  · rintro ⟨nonempty, noMark, noBreak⟩
    exact ⟨_, ⟨_, ⟨_, _, nonempty, ⟨noMark, noBreak⟩, ⟨_, ⟨_, ⟨_, rfl, rfl⟩, rfl⟩, rfl⟩, rfl⟩, rfl⟩,
      rfl⟩

theorem word_macroEnd_iff {word : Text} : macroEnd.Word word ↔ Delimiter .macroEnd word := by
  simp only [macroEnd, word_exactly_iff, word_nil_iff]
  constructor
  · rintro ⟨_, ⟨_, ⟨_, ⟨_, ⟨_, rfl, rfl⟩, rfl⟩, rfl⟩, rfl⟩, rfl⟩
    exact .macroEnd
  · rintro ⟨⟩
    exact ⟨_, ⟨_, ⟨_, ⟨_, ⟨_, rfl, rfl⟩, rfl⟩, rfl⟩, rfl⟩, rfl⟩

theorem word_textSubstitution_iff {word : Text} :
    textSubstitution.Word word ↔ Delimiter .textSubstitution word := by
  simp only [textSubstitution, word_exactly_iff, word_runAvoiding_iff, word_nil_iff, avoids_one_iff]
  constructor
  · rintro ⟨_, ⟨_, ⟨inner, _, nonempty, noMark, ⟨_, ⟨_, rfl, rfl⟩, rfl⟩, rfl⟩, rfl⟩, rfl⟩
    exact .textSubstitution nonempty noMark
  · rintro (_ | _ | _ | ⟨nonempty, noMark⟩)
    exact ⟨_, ⟨_, ⟨_, _, nonempty, noMark, ⟨_, ⟨_, rfl, rfl⟩, rfl⟩, rfl⟩, rfl⟩, rfl⟩

theorem word_specialDirective_iff {word : Text} :
    specialDirective.Word word ↔ Delimiter .specialDirective word := by
  simp only [specialDirective, word_exactly_iff, word_runAvoiding_iff, word_nil_iff, avoids_one_iff]
  constructor
  · rintro ⟨_, ⟨_, ⟨key, _, someKey, keyFree, ⟨_, ⟨value, _, someValue, valueFree,
      ⟨_, rfl, rfl⟩, rfl⟩, rfl⟩, rfl⟩, rfl⟩, rfl⟩
    have isDelimiter := Delimiter.specialDirective someKey keyFree someValue valueFree
    simpa using isDelimiter
  · rintro (_ | _ | _ | _ | ⟨someKey, keyFree, someValue, valueFree⟩)
    exact ⟨_, ⟨_, ⟨_, _, someKey, keyFree, ⟨_, ⟨_, _, someValue, valueFree,
      ⟨_, rfl, rfl⟩, rfl⟩, rfl⟩, rfl⟩, rfl⟩, by simp⟩

theorem closed_macroReference : macroReference.Closed :=
  .exactly (.exactly (.runAvoiding (by simp) ⟨' ', by simp⟩ (.exactly (.exactly .done))))

theorem closed_macroStart : macroStart.Closed :=
  .exactly (.exactly (.runAvoiding (by simp) ⟨' ', by simp⟩ (.exactly (.exactly (.exactly .done)))))

theorem closed_macroEnd : macroEnd.Closed :=
  .exactly (.exactly (.exactly (.exactly (.exactly .done))))

theorem closed_textSubstitution : textSubstitution.Closed :=
  .exactly (.exactly (.runAvoiding (by simp) ⟨' ', by simp⟩ (.exactly (.exactly .done))))

theorem closed_specialDirective : specialDirective.Closed :=
  .exactly (.exactly (.runAvoiding (by simp) ⟨' ', by simp⟩
    (.exactly (.runAvoiding (by simp) ⟨' ', by simp⟩ (.exactly .done)))))

end Pattern

/-! ### The first character tells the shape -/

theorem Delimiter.of_first {kind : TokenKind} {first : Char} {rest : Text}
    (isDelimiter : Delimiter kind (first :: rest)) :
    (first = '<' ∧ (kind = .macroStart ∨ kind = .macroReference)) ∨
      (first = '>' ∧ kind = .macroEnd) ∨ (first = '%' ∧ kind = .textSubstitution) ∨
        (first = '#' ∧ kind = .specialDirective) := by
  generalize same : first :: rest = word at isDelimiter
  cases isDelimiter <;> obtain ⟨rfl, _⟩ := List.cons_eq_cons.mp same <;> simp

/-- A macro start is a reference with one more character. -/
theorem Delimiter.exists_reference {kind : TokenKind} {rest : Text}
    (isDelimiter : Delimiter kind ('<' :: rest)) :
    ∃ reference, Delimiter .macroReference reference ∧
      ((kind = .macroReference ∧ '<' :: rest = reference) ∨
        (kind = .macroStart ∧ '<' :: rest = reference ++ ['='])) := by
  generalize same : '<' :: rest = word at isDelimiter
  cases isDelimiter with
  | macroStart nonempty noMark noBreak =>
    exact ⟨_, .macroReference nonempty noMark noBreak, .inr ⟨rfl, by simp⟩⟩
  | macroReference nonempty noMark noBreak =>
    exact ⟨_, .macroReference nonempty noMark noBreak, .inl ⟨rfl, rfl⟩⟩
  | macroEnd | textSubstitution | specialDirective => simp at same

theorem Delimiter.start_of_reference {reference : Text}
    (isReference : Delimiter .macroReference reference) :
    Delimiter .macroStart (reference ++ ['=']) := by
  obtain _ | ⟨nonempty, noMark, noBreak⟩ := isReference
  have isStart := Delimiter.macroStart nonempty noMark noBreak
  simpa using isStart

/-- A text that breaks the shape of every delimiter it could become is cut behind the breaking
character. -/
theorem firstLexeme_of_broken {shape : Pattern} (closed : shape.Closed) {first : Char} {rest : Text}
    (covers : ∀ text, DelimiterPrefix (first :: text) ↔ shape.Viable (first :: text))
    (none : ∀ kind word, Delimiter kind word → ¬ word <+: first :: rest)
    (broken : (Pattern.follow shape (first :: rest)).complete = false) :
    FirstLexeme (first :: rest)
      ⟨.passthrough, (Pattern.follow shape (first :: rest)).consumed⟩ := by
  have consumedPrefix := Pattern.consumed_prefix_text shape (first :: rest)
  rcases Pattern.not_viable_of_broken closed broken with ⟨whole, viable⟩ | blocked
  · rw [whole]
    exact .unfinished none fun piece isPrefix => ((covers rest).mpr viable).mono isPrefix
  · refine .broken none consumedPrefix ?_ ?_
    · rcases List.prefix_cons_iff.mp consumedPrefix with empty | ⟨later, same, _⟩
      · exact absurd (empty ▸ closed.viable_nil) blocked
      · rw [same] at blocked ⊢
        exact fun delimiting => blocked ((covers later).mp delimiting)
    · intro other otherPrefix otherBreaks
      refine Nat.le_of_not_lt fun shorter => ?_
      have viable := Pattern.viable_of_prefix_consumed closed
        (List.prefix_of_prefix_length_le otherPrefix consumedPrefix (Nat.le_of_lt shorter)) shorter
      rcases List.prefix_cons_iff.mp otherPrefix with rfl | ⟨later, rfl, _⟩
      · exact otherBreaks delimiterPrefix_nil
      · exact otherBreaks ((covers later).mpr viable)

/-- Where the first character leaves a single shape to follow, following it finds the first
token. -/
theorem firstLexeme_delimiterOr {kind : TokenKind} {shape : Pattern} (closed : shape.Closed)
    (words : ∀ word, shape.Word word ↔ Delimiter kind word) {first : Char}
    (only : ∀ other rest, Delimiter other (first :: rest) → other = kind) (rest : Text) :
    FirstLexeme (first :: rest) (Lexeme.delimiterOr kind shape (first :: rest)) := by
  have followed : ∀ otherKind other, Delimiter otherKind other → other <+: first :: rest →
      Pattern.follow shape (first :: rest) = ⟨true, other⟩ := by
    intro otherKind other isDelimiter isPrefix
    obtain ⟨later, rfl⟩ := isDelimiter.exists_cons isPrefix
    rw [only _ _ isDelimiter] at isDelimiter
    exact Pattern.eq_consumed_of_word closed ((words _).mpr isDelimiter) isPrefix
  cases found : (Pattern.follow shape (first :: rest)).complete with
  | true =>
    rw [Lexeme.delimiterOr, found, if_pos rfl]
    refine .delimiter ((words _).mp (Pattern.word_of_follow_complete found))
      (Pattern.consumed_prefix_text _ _) ?_
    intro otherKind other isDelimiter isPrefix
    exact Nat.le_of_eq (by rw [followed otherKind other isDelimiter isPrefix])
  | false =>
    rw [Lexeme.delimiterOr, found, if_neg Bool.false_ne_true]
    refine firstLexeme_of_broken closed ?_ ?_ found
    · intro text
      constructor
      · rintro ⟨otherKind, other, isDelimiter, isPrefix⟩
        obtain ⟨later, rfl⟩ := isPrefix
        rw [List.cons_append] at isDelimiter
        rw [only _ _ isDelimiter] at isDelimiter
        exact ⟨_, (words _).mpr isDelimiter, List.prefix_append (first :: text) later⟩
      · rintro ⟨word, isWord, isPrefix⟩
        exact ⟨kind, word, (words word).mp isWord, isPrefix⟩
    · intro otherKind other isDelimiter isPrefix
      rw [followed otherKind other isDelimiter isPrefix] at found
      cases found

/-! ### References and macro starts -/

theorem delimiterPrefix_iff_viable_macroStart (text : Text) :
    DelimiterPrefix ('<' :: text) ↔ Pattern.macroStart.Viable ('<' :: text) := by
  constructor
  · rintro ⟨kind, word, isDelimiter, later, rfl⟩
    rw [List.cons_append] at isDelimiter
    obtain ⟨reference, isReference, ⟨_, same⟩ | ⟨_, same⟩⟩ := isDelimiter.exists_reference
    · refine ⟨_, Pattern.word_macroStart_iff.mpr isReference.start_of_reference, ?_⟩
      rw [← same]
      exact ⟨later ++ ['='], by simp⟩
    · refine ⟨_, Pattern.word_macroStart_iff.mpr isReference.start_of_reference, ?_⟩
      rw [← same]
      exact ⟨later, rfl⟩
  · rintro ⟨word, isWord, isPrefix⟩
    exact ⟨.macroStart, word, Pattern.word_macroStart_iff.mp isWord, isPrefix⟩

/-- A delimiter at the start of a text that starts with `<` is the reference found there, or
this reference with the character after it. -/
theorem follow_macroReference_of_delimiter {kind : TokenKind} {word rest : Text}
    (isDelimiter : Delimiter kind word) (isPrefix : word <+: '<' :: rest) :
    ∃ reference, Pattern.follow .macroReference ('<' :: rest) = ⟨true, reference⟩ ∧
      (word = reference ∨ word = reference ++ ['=']) := by
  obtain ⟨later, rfl⟩ := isDelimiter.exists_cons isPrefix
  obtain ⟨reference, isReference, found⟩ := isDelimiter.exists_reference
  have isWord := Pattern.word_macroReference_iff.mpr isReference
  refine ⟨reference, ?_, found.imp And.right And.right⟩
  refine Pattern.eq_consumed_of_word Pattern.closed_macroReference isWord ?_
  rcases found with ⟨_, same⟩ | ⟨_, same⟩
  · exact same ▸ isPrefix
  · exact (List.prefix_append reference ['=']).trans (same ▸ isPrefix)

theorem promote_start (reference rest : Text) :
    Lexeme.promote ⟨.macroReference, reference⟩ (reference ++ '=' :: rest) =
      ⟨.macroStart, reference ++ ['=']⟩ := by
  rw [Lexeme.promote, List.drop_left]
  rfl

theorem promote_reference {reference rest : Text} (other : ∀ later, rest ≠ '=' :: later) :
    Lexeme.promote ⟨.macroReference, reference⟩ (reference ++ rest) =
      ⟨.macroReference, reference⟩ := by
  rw [Lexeme.promote, List.drop_left]
  split
  · exact absurd rfl (other _)
  · rfl

/-- A reference is the first token of a text unless it is directly followed by `=`, and then the
first token is the macro start. -/
theorem firstLexeme_of_reference {reference : Text}
    (isReference : Delimiter .macroReference reference) (rest : Text) :
    FirstLexeme (reference ++ rest)
      (Lexeme.promote ⟨.macroReference, reference⟩ (reference ++ rest)) := by
  have longest : ∀ kind word, Delimiter kind word → word <+: reference ++ rest →
      word = reference ∨ word = reference ++ ['='] := by
    intro kind word isDelimiter isPrefix
    obtain _ | ⟨nonempty, noMark, noBreak⟩ := isReference
    have followed := Pattern.follow_word_append Pattern.closed_macroReference
      (Pattern.word_macroReference_iff.mpr (.macroReference nonempty noMark noBreak)) rest
    obtain ⟨other, otherFollowed, found⟩ := follow_macroReference_of_delimiter isDelimiter isPrefix
    cases followed.symm.trans otherFollowed
    exact found
  by_cases starts : ∃ later, rest = '=' :: later
  · obtain ⟨later, rfl⟩ := starts
    rw [promote_start]
    refine .delimiter isReference.start_of_reference ⟨later, by simp⟩ ?_
    intro kind word isDelimiter isPrefix
    rcases longest kind word isDelimiter isPrefix with rfl | rfl
    · simp
    · exact Nat.le_refl _
  · rw [promote_reference fun later same => starts ⟨later, same⟩]
    refine .delimiter isReference (List.prefix_append reference rest) ?_
    intro kind word isDelimiter isPrefix
    rcases longest kind word isDelimiter isPrefix with rfl | rfl
    · exact Nat.le_refl _
    · obtain ⟨later, same⟩ := isPrefix
      rw [List.append_assoc] at same
      exact absurd ⟨later, (List.append_cancel_left same).symm⟩ starts

theorem firstLexeme_promote (rest : Text) :
    FirstLexeme ('<' :: rest) (Lexeme.promote
      (Lexeme.delimiterOr .macroReference Pattern.macroReference ('<' :: rest)) ('<' :: rest)) := by
  cases found : (Pattern.follow .macroReference ('<' :: rest)).complete with
  | true =>
    obtain ⟨later, same⟩ := Pattern.consumed_prefix_text .macroReference ('<' :: rest)
    have isReference := Pattern.word_macroReference_iff.mp (Pattern.word_of_follow_complete found)
    rw [Lexeme.delimiterOr, found, if_pos rfl]
    have first := firstLexeme_of_reference isReference later
    rwa [same] at first
  | false =>
    rw [Lexeme.delimiterOr, found, if_neg Bool.false_ne_true]
    have unreached := Pattern.follow_append_of_broken found [.exactly '=']
    have first : FirstLexeme ('<' :: rest)
        ⟨.passthrough, (Pattern.follow .macroStart ('<' :: rest)).consumed⟩ := by
      refine firstLexeme_of_broken Pattern.closed_macroStart delimiterPrefix_iff_viable_macroStart
        ?_ ((congrArg Pattern.Trail.complete unreached).trans found)
      intro kind word isDelimiter isPrefix
      obtain ⟨reference, followed, _⟩ := follow_macroReference_of_delimiter isDelimiter isPrefix
      rw [followed] at found
      cases found
    rw [Pattern.macroStart, unreached] at first
    exact first

/-! ### The first token -/

/-- A character that starts no delimiter is a token by itself. -/
theorem firstLexeme_single {first : Char} (rest : Text)
    (plain : ∀ kind word, ¬ Delimiter kind (first :: word)) :
    FirstLexeme (first :: rest) ⟨.passthrough, [first]⟩ := by
  refine .broken ?_ (List.cons_prefix_cons.mpr ⟨rfl, List.nil_prefix⟩) ?_ ?_
  · intro kind word isDelimiter isPrefix
    obtain ⟨later, rfl⟩ := isDelimiter.exists_cons isPrefix
    exact plain kind later isDelimiter
  · rintro ⟨kind, _, isDelimiter, later, rfl⟩
    exact plain kind later isDelimiter
  · intro other _ otherBreaks
    refine List.length_pos_iff.mpr fun empty => otherBreaks ?_
    rw [empty]
    exact delimiterPrefix_nil

/-- Scanning finds the first token. -/
theorem firstLexeme_scan (first : Char) (rest : Text) :
    FirstLexeme (first :: rest) (Lexeme.scan first rest) := by
  unfold Lexeme.scan
  split
  · rename_i same
    rw [same]
    exact firstLexeme_promote rest
  split
  · rename_i same
    rw [same]
    exact firstLexeme_delimiterOr Pattern.closed_macroEnd (fun _ => Pattern.word_macroEnd_iff)
      (fun _ _ isDelimiter => by simpa using isDelimiter.of_first) rest
  split
  · rename_i same
    rw [same]
    exact firstLexeme_delimiterOr Pattern.closed_textSubstitution
      (fun _ => Pattern.word_textSubstitution_iff)
      (fun _ _ isDelimiter => by simpa using isDelimiter.of_first) rest
  split
  · rename_i same
    rw [same]
    exact firstLexeme_delimiterOr Pattern.closed_specialDirective
      (fun _ => Pattern.word_specialDirective_iff)
      (fun _ _ isDelimiter => by simpa using isDelimiter.of_first) rest
  · rename_i notOpening notClosing notPercent notHash
    refine firstLexeme_single rest fun kind word isDelimiter => ?_
    rcases isDelimiter.of_first with ⟨same, _⟩ | ⟨same, _⟩ | ⟨same, _⟩ | ⟨same, _⟩
    · exact notOpening same
    · exact notClosing same
    · exact notPercent same
    · exact notHash same

/-! ### Delimiters in front of other text -/

theorem delimiterOr_word_append {shape : Pattern} (closed : shape.Closed) {word : Text}
    (isWord : shape.Word word) (kind : TokenKind) (rest : Text) :
    Lexeme.delimiterOr kind shape (word ++ rest) = ⟨kind, word⟩ := by
  rw [Lexeme.delimiterOr, Pattern.follow_word_append closed isWord]
  rfl

theorem scan_opening (rest : Text) :
    Lexeme.scan '<' rest = Lexeme.promote
      (Lexeme.delimiterOr .macroReference Pattern.macroReference ('<' :: rest)) ('<' :: rest) := rfl

/-- A delimiter is the first token of every text that starts with it, except that a reference
may not be followed by `=`. -/
theorem scan_delimiter {kind : TokenKind} {first : Char} {word rest : Text}
    (isDelimiter : Delimiter kind (first :: word))
    (apart : kind = .macroReference → ∀ later, rest ≠ '=' :: later) :
    Lexeme.scan first (word ++ rest) = ⟨kind, first :: word⟩ := by
  rcases isDelimiter.of_first with ⟨rfl, _⟩ | ⟨rfl, rfl⟩ | ⟨rfl, rfl⟩ | ⟨rfl, rfl⟩
  · obtain ⟨reference, isReference, found⟩ := isDelimiter.exists_reference
    have isWord := Pattern.word_macroReference_iff.mpr isReference
    rcases found with ⟨rfl, same⟩ | ⟨rfl, same⟩
    · rw [scan_opening, ← List.cons_append, same,
        delimiterOr_word_append Pattern.closed_macroReference isWord, promote_reference (apart rfl)]
    · rw [scan_opening, ← List.cons_append, same, List.append_assoc,
        delimiterOr_word_append Pattern.closed_macroReference isWord]
      exact promote_start reference rest
  · exact delimiterOr_word_append Pattern.closed_macroEnd
      (Pattern.word_macroEnd_iff.mpr isDelimiter) .macroEnd rest
  · exact delimiterOr_word_append Pattern.closed_textSubstitution
      (Pattern.word_textSubstitution_iff.mpr isDelimiter) .textSubstitution rest
  · exact delimiterOr_word_append Pattern.closed_specialDirective
      (Pattern.word_specialDirective_iff.mpr isDelimiter) .specialDirective rest

theorem scan_plain {first : Char} (plain : first ∉ ['<', '>', '%', '#']) (rest : Text) :
    Lexeme.scan first rest = ⟨.passthrough, [first]⟩ := by
  simp only [List.mem_cons, List.not_mem_nil, or_false, not_or] at plain
  obtain ⟨notOpening, notClosing, notPercent, notHash⟩ := plain
  rw [Lexeme.scan, if_neg notOpening, if_neg notClosing, if_neg notPercent, if_neg notHash]

end Literate
