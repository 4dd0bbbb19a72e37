/-
This file proves that following a pattern decides its language. A pattern whose
runs are each closed by a character that they avoid leaves no choice: on a word of
its language, whatever comes after the word, following it ends exactly at the end
of the word. On any other text it stops where the text stops being the beginning
of a word, and no earlier: everything in front of the breaking character can still
be completed.
-/

import Literate.Token.Pattern

namespace Literate

namespace Pattern

/-! ### Beginnings of words -/

/-- The texts that can still be completed to a word of a pattern. -/
def Viable (steps : Pattern) (text : Text) : Prop := ∃ word, Word steps word ∧ text <+: word

/-- The patterns that leave no choice: every run can take some character, and it is closed by
one that it avoids. -/
inductive Closed : Pattern → Prop where
  | done : Closed []
  | exactly {character : Char} {steps : Pattern} :
      Closed steps → Closed (.exactly character :: steps)
  | runAvoiding {excluded : List Char} {mark : Char} {steps : Pattern} :
      mark ∈ excluded → (∃ character, character ∉ excluded) → Closed (.exactly mark :: steps) →
        Closed (.runAvoiding excluded :: .exactly mark :: steps)

theorem word_exactly_iff {character : Char} {steps : Pattern} {text : Text} :
    Word (.exactly character :: steps) text ↔
      ∃ word, Word steps word ∧ text = character :: word := by
  constructor
  · rintro ⟨⟩
    exact ⟨_, ‹_›, rfl⟩
  · rintro ⟨word, isWord, rfl⟩
    exact .exactly isWord

theorem word_runAvoiding_iff {excluded : List Char} {steps : Pattern} {text : Text} :
    Word (.runAvoiding excluded :: steps) text ↔
      ∃ run word, run ≠ [] ∧ (∀ character ∈ run, character ∉ excluded) ∧ Word steps word ∧
        text = run ++ word := by
  constructor
  · rintro ⟨⟩
    exact ⟨_, _, ‹_›, ‹_›, ‹_›, rfl⟩
  · rintro ⟨run, word, nonempty, avoids, isWord, rfl⟩
    exact .runAvoiding nonempty avoids isWord

theorem word_nil_iff {text : Text} : Word [] text ↔ text = [] := by
  constructor
  · rintro ⟨⟩
    rfl
  · rintro rfl
    exact .done

/-- A pattern without choices has a word. -/
theorem Closed.exists_word {steps : Pattern} (closed : steps.Closed) :
    ∃ word, Word steps word := by
  induction closed with
  | done => exact ⟨[], .done⟩
  | exactly _ inductionHypothesis =>
    obtain ⟨word, isWord⟩ := inductionHypothesis
    exact ⟨_, .exactly isWord⟩
  | runAvoiding _ permitted _ inductionHypothesis =>
    obtain ⟨word, isWord⟩ := inductionHypothesis
    obtain ⟨character, allowed⟩ := permitted
    exact ⟨_, .runAvoiding (List.cons_ne_nil character [])
      (fun _ member => List.mem_singleton.mp member ▸ allowed) isWord⟩

theorem Closed.viable_nil {steps : Pattern} (closed : steps.Closed) : Viable steps [] := by
  obtain ⟨word, isWord⟩ := closed.exists_word
  exact ⟨word, isWord, List.nil_prefix⟩

theorem viable_exactly_cons_iff {character first : Char} {steps : Pattern} {text : Text} :
    Viable (.exactly character :: steps) (first :: text) ↔
      first = character ∧ Viable steps text := by
  constructor
  · rintro ⟨_, whole, isPrefix⟩
    obtain ⟨word, isWord, rfl⟩ := word_exactly_iff.mp whole
    obtain ⟨same, shorter⟩ := List.cons_prefix_cons.mp isPrefix
    exact ⟨same, word, isWord, shorter⟩
  · rintro ⟨rfl, word, isWord, isPrefix⟩
    exact ⟨_, .exactly isWord, List.cons_prefix_cons.mpr ⟨rfl, isPrefix⟩⟩

/-- A run that has come to its closing character is over, so what follows it belongs to the
steps behind the run. -/
theorem prefix_of_run_append {excluded : List Char} {first second before after : Text}
    {mark other : Char} (firstAvoids : ∀ character ∈ first, character ∉ excluded)
    (secondAvoids : ∀ character ∈ second, character ∉ excluded) (closing : mark ∈ excluded)
    (closes : other ∈ excluded)
    (isPrefix : first ++ mark :: before <+: second ++ other :: after) :
    mark :: before <+: other :: after := by
  obtain ⟨rest, same⟩ := isPrefix
  have sameRun : first = second := by
    have taken := congrArg (List.takeWhile (· ∉ excluded)) same
    rw [List.append_assoc, List.cons_append, List.takeWhile_append_of_pos (by simpa),
      List.takeWhile_append_of_pos (by simpa), List.takeWhile_cons_of_neg (by simpa),
      List.takeWhile_cons_of_neg (by simpa)] at taken
    simpa using taken
  rw [sameRun, List.append_assoc] at same
  exact ⟨rest, List.append_cancel_left same⟩

/-! ### Following a pattern -/

theorem consumed_prefix_text (steps : Pattern) (text : Text) :
    (follow steps text).consumed <+: text := by
  fun_induction follow steps text with
  | case1 | case2 | case5 => exact List.nil_prefix
  | case3 steps first rest inductionHypothesis =>
    exact List.cons_prefix_cons.mpr ⟨rfl, inductionHypothesis⟩
  | case4 | case6 => exact List.cons_prefix_cons.mpr ⟨rfl, List.nil_prefix⟩
  | case7 excluded steps first rest _ inductionHypothesis =>
    have split := List.takeWhile_append_dropWhile (p := fun c => decide (c ∉ excluded)) (l := rest)
    refine List.cons_prefix_cons.mpr ⟨rfl, ?_⟩
    conv => rhs; rw [← split]
    exact (List.prefix_append_right_inj _).mpr inductionHypothesis

theorem run_avoids {excluded : List Char} {first : Char} (allowed : first ∉ excluded)
    (rest : Text) :
    ∀ character ∈ first :: rest.takeWhile (· ∉ excluded), character ∉ excluded := by
  intro character member
  rcases List.mem_cons.mp member with rfl | later
  · exact allowed
  · simpa using List.all_eq_true.mp List.all_takeWhile character later

/-- What completes a pattern is a word of it. -/
theorem word_of_follow_complete {steps : Pattern} {text : Text}
    (complete : (follow steps text).complete = true) :
    Word steps (follow steps text).consumed := by
  fun_induction follow steps text with
  | case1 => exact .done
  | case2 | case4 | case5 | case6 => cases complete
  | case3 steps first rest inductionHypothesis => exact .exactly (inductionHypothesis complete)
  | case7 excluded steps first rest allowed inductionHypothesis =>
    exact .runAvoiding (List.cons_ne_nil _ _) (run_avoids allowed _) (inductionHypothesis complete)

/-- A run ends at the first character that it avoids. -/
theorem follow_run_append {excluded : List Char} {run : Text} {mark : Char} (nonempty : run ≠ [])
    (avoids : ∀ character ∈ run, character ∉ excluded) (closing : mark ∈ excluded)
    (steps : Pattern) (rest : Text) :
    follow (.runAvoiding excluded :: steps) (run ++ mark :: rest) =
      (follow steps (mark :: rest)).after run := by
  obtain ⟨first, later, rfl⟩ := List.exists_cons_of_ne_nil nonempty
  obtain ⟨allowed, laterAvoids⟩ := List.forall_mem_cons.mp avoids
  rw [List.cons_append, follow, if_neg allowed, List.takeWhile_append_of_pos (by simpa),
    List.dropWhile_append_of_pos (by simpa), List.takeWhile_cons_of_neg (by simpa),
    List.dropWhile_cons_of_neg (by simpa), List.append_nil]

/-- Following a pattern without choices along one of its words ends with the word, whatever
comes after it. -/
theorem follow_word_append {steps : Pattern} (closed : steps.Closed) {word : Text}
    (isWord : Word steps word) (rest : Text) : follow steps (word ++ rest) = ⟨true, word⟩ := by
  induction closed generalizing word with
  | done =>
    rw [word_nil_iff.mp isWord]
    rfl
  | exactly _ inductionHypothesis =>
    obtain ⟨remainder, isRemainder, rfl⟩ := word_exactly_iff.mp isWord
    rw [List.cons_append, follow, if_pos rfl, inductionHypothesis isRemainder]
    rfl
  | runAvoiding closing _ _ inductionHypothesis =>
    obtain ⟨run, remainder, nonempty, avoids, isRemainder, rfl⟩ := word_runAvoiding_iff.mp isWord
    have followed := inductionHypothesis isRemainder
    obtain ⟨behind, _, rfl⟩ := word_exactly_iff.mp isRemainder
    rw [List.cons_append] at followed
    rw [List.append_assoc, List.cons_append, follow_run_append nonempty avoids closing, followed]
    rfl

/-- A word of a pattern without choices is the only one that a text starts with. -/
theorem eq_consumed_of_word {steps : Pattern} (closed : steps.Closed) {word text : Text}
    (isWord : Word steps word) (isPrefix : word <+: text) :
    follow steps text = ⟨true, word⟩ := by
  obtain ⟨rest, rfl⟩ := isPrefix
  exact follow_word_append closed isWord rest

/-- Further steps are not reached when the first ones are not completed. -/
theorem follow_append_of_broken {first : Pattern} {text : Text}
    (broken : (follow first text).complete = false) (second : Pattern) :
    follow (first ++ second) text = follow first text := by
  fun_induction follow first text with
  | case1 => cases broken
  | case2 | case5 => rfl
  | case3 steps character rest inductionHypothesis =>
    rw [List.cons_append, follow, if_pos rfl, inductionHypothesis broken]
  | case4 character steps other rest different => rw [List.cons_append, follow, if_neg different]
  | case6 excluded steps character rest forbidden => rw [List.cons_append, follow, if_pos forbidden]
  | case7 excluded steps character rest allowed inductionHypothesis =>
    rw [List.cons_append, follow, if_neg allowed, inductionHypothesis broken]

/-! ### Where a pattern breaks -/

theorem viable_of_prefix_run {excluded : List Char} {mark : Char} {steps : Pattern}
    (closed : Closed (.runAvoiding excluded :: .exactly mark :: steps)) {run text : Text}
    (avoids : ∀ character ∈ run, character ∉ excluded) (isPrefix : text <+: run) :
    Viable (.runAvoiding excluded :: .exactly mark :: steps) text := by
  by_cases empty : text = []
  · rw [empty]
    exact closed.viable_nil
  · obtain _ | _ | ⟨_, _, behind⟩ := closed
    obtain ⟨word, isWord⟩ := behind.exists_word
    exact ⟨text ++ word,
      .runAvoiding empty (fun character member => avoids character (isPrefix.subset member)) isWord,
      List.prefix_append text word⟩

theorem viable_run_append {excluded : List Char} {steps : Pattern} {run text : Text}
    (nonempty : run ≠ []) (avoids : ∀ character ∈ run, character ∉ excluded)
    (viable : Viable steps text) : Viable (.runAvoiding excluded :: steps) (run ++ text) := by
  obtain ⟨word, isWord, isPrefix⟩ := viable
  exact ⟨run ++ word, .runAvoiding nonempty avoids isWord,
    (List.prefix_append_right_inj run).mpr isPrefix⟩

/-- The part of a text that is used up without breaking the pattern can be completed. -/
theorem viable_of_prefix_consumed {steps : Pattern} (closed : steps.Closed) {text piece : Text}
    (isPrefix : piece <+: (follow steps text).consumed)
    (shorter : piece.length < (follow steps text).consumed.length) : Viable steps piece := by
  fun_induction follow steps text generalizing piece with
  | case1 | case2 | case5 => exact absurd shorter (Nat.not_lt_zero _)
  | case4 | case6 =>
    have empty : piece = [] := List.eq_nil_of_length_eq_zero (by simpa [Trail.broken] using shorter)
    rw [empty]
    exact closed.viable_nil
  | case3 steps first rest inductionHypothesis =>
    obtain _ | behind := closed
    rcases List.prefix_cons_iff.mp isPrefix with rfl | ⟨later, rfl, laterPrefix⟩
    · exact (Closed.exactly behind).viable_nil
    · refine viable_exactly_cons_iff.mpr ⟨rfl, inductionHypothesis behind laterPrefix ?_⟩
      simpa [Trail.after] using shorter
  | case7 excluded steps first rest allowed inductionHypothesis =>
    have avoids := run_avoids allowed rest
    obtain _ | _ | ⟨closing, permitted, behind⟩ := closed
    rcases List.prefix_or_prefix_of_prefix isPrefix (List.prefix_append _ _) with
      inRun | ⟨later, rfl⟩
    · exact viable_of_prefix_run (.runAvoiding closing permitted behind) avoids inRun
    · refine viable_run_append (List.cons_ne_nil _ _) avoids (inductionHypothesis behind ?_ ?_)
      · exact (List.prefix_append_right_inj _).mp isPrefix
      · simpa [Trail.after] using shorter

theorem mem_excluded_of_dropWhile {excluded : List Char} {text after : Text} {mark : Char}
    (found : text.dropWhile (· ∉ excluded) = mark :: after) : mark ∈ excluded := by
  have stopped := List.head?_dropWhile_not (fun character => decide (character ∉ excluded)) text
  rw [found] at stopped
  simpa using stopped

/-- Where the steps behind a run break, the run together with them breaks too: the run itself
is over, because the text goes on with a character that it avoids. -/
theorem not_viable_run_append {excluded : List Char} {mark : Char} {steps : Pattern}
    (closing : mark ∈ excluded) (closed : Closed (.exactly mark :: steps)) {run piece rest : Text}
    (avoids : ∀ character ∈ run, character ∉ excluded)
    (stopped : ∀ character after, rest = character :: after → character ∈ excluded)
    (isPrefix : piece <+: rest) (blocked : ¬ Viable (.exactly mark :: steps) piece) :
    ¬ Viable (.runAvoiding excluded :: .exactly mark :: steps) (run ++ piece) := by
  rintro ⟨_, whole, wholePrefix⟩
  obtain ⟨other, word, _, otherAvoids, isWord, rfl⟩ := word_runAvoiding_iff.mp whole
  have viable : Viable (.exactly mark :: steps) piece := by
    cases piece with
    | nil => exact closed.viable_nil
    | cons character piece =>
      obtain ⟨after, rfl⟩ := isPrefix
      obtain ⟨behind, _, rfl⟩ := word_exactly_iff.mp isWord
      exact ⟨_, isWord,
        prefix_of_run_append avoids otherAvoids (stopped character _ rfl) closing wholePrefix⟩
  exact blocked viable

/-- A pattern that was not completed has used up the whole text, which can be completed, or it
has just met a character with which no word goes on. -/
theorem not_viable_of_broken {steps : Pattern} (closed : steps.Closed) {text : Text}
    (broken : (follow steps text).complete = false) :
    ((follow steps text).consumed = text ∧ Viable steps text) ∨
      ¬ Viable steps (follow steps text).consumed := by
  fun_induction follow steps text with
  | case1 => cases broken
  | case2 | case5 => exact .inl ⟨rfl, closed.viable_nil⟩
  | case3 steps first rest inductionHypothesis =>
    obtain _ | behind := closed
    rcases inductionHypothesis behind broken with ⟨whole, viable⟩ | blocked
    · exact .inl ⟨congrArg (first :: ·) whole, viable_exactly_cons_iff.mpr ⟨rfl, viable⟩⟩
    · exact .inr fun viable => blocked (viable_exactly_cons_iff.mp viable).2
  | case4 character steps first rest different =>
    exact .inr fun viable => different (viable_exactly_cons_iff.mp viable).1
  | case6 excluded steps first rest forbidden =>
    refine .inr fun viable => ?_
    obtain ⟨_, isWord, isPrefix⟩ := viable
    obtain ⟨run, word, nonempty, avoids, _, rfl⟩ := word_runAvoiding_iff.mp isWord
    obtain ⟨head, run, rfl⟩ := List.exists_cons_of_ne_nil nonempty
    obtain ⟨same, _⟩ := List.cons_prefix_cons.mp isPrefix
    exact avoids head List.mem_cons_self (same ▸ forbidden)
  | case7 excluded steps first rest allowed inductionHypothesis =>
    have avoids := run_avoids allowed rest
    obtain _ | _ | ⟨closing, permitted, behind⟩ := closed
    rcases inductionHypothesis behind broken with ⟨whole, viable⟩ | blocked
    · refine .inl ⟨?_, ?_⟩
      · show first :: rest.takeWhile _ ++ Trail.consumed _ = first :: rest
        rw [whole, List.cons_append, List.takeWhile_append_dropWhile]
      · have joined := viable_run_append (List.cons_ne_nil _ _) avoids viable
        rwa [List.cons_append, List.takeWhile_append_dropWhile] at joined
    · have stopped : ∀ mark after, rest.dropWhile (· ∉ excluded) = mark :: after →
          mark ∈ excluded := fun mark after found => mem_excluded_of_dropWhile found
      exact .inr
        (not_viable_run_append closing behind avoids stopped (consumed_prefix_text _ _) blocked)

end Pattern

end Literate
