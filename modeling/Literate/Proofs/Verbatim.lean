/-
This file proves when the body of a macro comes back as it was written. A `>` is both an
ordinary character and the first one of the end of a body. Reading goes along the end as
far as it can; where it breaks off, the characters up to the breaking one are plain text,
and reading starts anew behind them. Nothing is looked at twice. So the text of a body
falls into pieces, each of which follows the end up to some character and has another
one in its place, and the end itself is seen only if it starts where a piece has ended.

A body that falls into such pieces without a rest is settled, and is given back character
by character. Every other body ends in the middle of a piece, on a `>` or on `>>@`. The
true end then belongs to that piece and to the next one, and no end is left to be seen.
-/

import Literate.Proofs.Grammar
import Literate.Proofs.Reordering
import Literate.Proofs.Substitution

namespace Literate

/-! ### Pieces of a body -/

/-- A text follows the end of a body up to some character, and has another one in its place. -/
def BreaksOff (piece : Text) : Prop :=
  ∃ front next behind last, Event.closing.spelling = front ++ next :: behind ∧ last ≠ next ∧
    piece = front ++ [last]

/-- A text falls into pieces that break off the end of a body, without a rest. -/
def Settled (body : Text) : Prop :=
  ∃ pieces : List Text, (∀ piece ∈ pieces, BreaksOff piece) ∧ body = pieces.flatten

theorem settled_nil : Settled [] := ⟨[], nofun, rfl⟩

theorem Settled.append {first second : Text} (settled : Settled first)
    (settledToo : Settled second) : Settled (first ++ second) := by
  obtain ⟨pieces, breakOff, rfl⟩ := settled
  obtain ⟨others, othersToo, rfl⟩ := settledToo
  refine ⟨pieces ++ others, fun piece member => ?_, List.flatten_append.symm⟩
  exact (List.mem_append.mp member).elim (breakOff piece) (othersToo piece)

theorem BreaksOff.settled {piece : Text} (breaksOff : BreaksOff piece) : Settled piece :=
  ⟨[piece], fun _ member => List.mem_singleton.mp member ▸ breaksOff, List.flatten_singleton.symm⟩

/-- Every body falls into pieces and a rest, which goes along the end of a body. -/
theorem exists_settled {body : Text} (free : '<' ∉ body) :
    ∃ settled rest, Settled settled ∧ rest <+: Event.closing.spelling ∧ body = settled ++ rest := by
  induction body using List.reverseRecOn with
  | nil => exact ⟨[], [], settled_nil, List.nil_prefix, rfl⟩
  | append_singleton body last inductionHypothesis =>
    obtain ⟨settled, rest, isSettled, ⟨behind, along⟩, rfl⟩ :=
      inductionHypothesis fun member => free (List.mem_append_left _ member)
    cases behind with
    | nil =>
      have inRest : '<' ∈ rest := by
        rw [List.append_nil] at along
        exact along ▸ by decide
      exact absurd (List.mem_append_left _ (List.mem_append_right _ inRest)) free
    | cons next behind =>
      by_cases same : last = next
      · subst same
        refine ⟨settled, rest ++ [last], isSettled, ⟨behind, ?_⟩, List.append_assoc ..⟩
        rw [List.append_assoc, List.singleton_append, along]
      · have breaksOff : BreaksOff (rest ++ [last]) :=
          ⟨rest, next, behind, last, along.symm, same, rfl⟩
        refine ⟨settled ++ (rest ++ [last]), [], isSettled.append breaksOff.settled,
          List.nil_prefix, ?_⟩
        rw [List.append_nil, List.append_assoc]

/-- A text without `<` that goes along the end of a body stops in front of the `<`. -/
theorem rest_cases {rest : Text} (along : rest <+: Event.closing.spelling) (free : '<' ∉ rest) :
    rest = [] ∨ rest = ['>'] ∨ rest = ['>', '>'] ∨ rest = ['>', '>', '@'] := by
  simp only [Event.spelling, List.prefix_cons_iff] at along
  obtain rfl | ⟨_, rfl, rfl | ⟨_, rfl, rfl | ⟨_, rfl, rfl | ⟨_, rfl, _⟩⟩⟩⟩ := along
  · exact .inl rfl
  · exact .inr (.inl rfl)
  · exact .inr (.inr (.inl rfl))
  · exact .inr (.inr (.inr rfl))
  · simp at free

/-- A body that ends neither on `>` nor on `>>@` is settled. -/
theorem settled_of_not_suffix {body : Text} (free : '<' ∉ body) (notOne : ¬['>'] <:+ body)
    (notThree : ¬['>', '>', '@'] <:+ body) : Settled body := by
  obtain ⟨settled, rest, isSettled, along, rfl⟩ := exists_settled free
  obtain rfl | rfl | rfl | rfl :=
    rest_cases along fun member => free (List.mem_append_right _ member)
  · rwa [List.append_nil]
  · exact absurd (List.suffix_append ..) notOne
  · exact absurd ⟨settled ++ ['>'], List.append_assoc ..⟩ notOne
  · exact absurd (List.suffix_append ..) notThree

/-- Behind a body that is not settled, the start of its end belongs to the body. -/
theorem settled_append_of_not_settled {body : Text} (free : '<' ∉ body)
    (unsettled : ¬Settled body) : Settled (body ++ ['>', '>', '@']) := by
  have twoAndAngle : BreaksOff ['>', '>', '>'] :=
    ⟨['>', '>'], '@', ['<', '<'], '>', rfl, by decide, rfl⟩
  have oneAndAt : BreaksOff ['>', '@'] := ⟨['>'], '>', ['@', '<', '<'], '@', rfl, by decide, rfl⟩
  have atAlone : BreaksOff ['@'] := ⟨[], '>', ['>', '@', '<', '<'], '@', rfl, by decide, rfl⟩
  have threeAndAngle : BreaksOff ['>', '>', '@', '>'] :=
    ⟨['>', '>', '@'], '<', ['<'], '>', rfl, by decide, rfl⟩
  obtain ⟨settled, rest, isSettled, along, rfl⟩ := exists_settled free
  rw [List.append_assoc]
  obtain rfl | rfl | rfl | rfl :=
    rest_cases along fun member => free (List.mem_append_right _ member)
  · exact absurd ((List.append_nil settled).symm ▸ isSettled) unsettled
  · exact isSettled.append (twoAndAngle.settled.append atAlone.settled)
  · exact isSettled.append (twoAndAngle.settled.append oneAndAt.settled)
  · exact isSettled.append (threeAndAngle.settled.append oneAndAt.settled)

/-! ### Reading a piece -/

/-- A fixed word is followed up to the first character that differs. -/
theorem Pattern.follow_exactly_of_ne (front behind : Text) {next last : Char}
    (different : last ≠ next) (rest : Text) :
    follow ((front ++ next :: behind).map .exactly) (front ++ last :: rest) =
      .broken (front ++ [last]) := by
  induction front with
  | nil => exact if_neg different
  | cons first front inductionHypothesis =>
    rw [List.cons_append, List.cons_append, List.map_cons, follow, if_pos rfl, inductionHypothesis]
    rfl

/-- A piece is read as plain text, whatever comes behind it. -/
theorem BreaksOff.scan {piece : Text} (breaksOff : BreaksOff piece)
    (free : ∀ character ∈ piece, character ∉ ['<', '%', '#']) :
    ∃ first word, piece = first :: word ∧
      ∀ rest, Lexeme.scan first (word ++ rest) = ⟨.passthrough, first :: word⟩ := by
  obtain ⟨front, next, behind, last, along, different, rfl⟩ := breaksOff
  cases front with
  | nil =>
    have plain : last ∉ ['<', '>', '%', '#'] := by
      obtain ⟨rfl, _⟩ := List.cons_eq_cons.mp along
      have inside := free last List.mem_cons_self
      simp only [List.mem_cons, not_or] at inside ⊢
      exact ⟨inside.1, different, inside.2⟩
    exact ⟨last, [], rfl, scan_plain plain⟩
  | cons first front =>
    obtain ⟨rfl, _⟩ := List.cons_eq_cons.mp along
    refine ⟨'>', front ++ [last], rfl, fun rest => ?_⟩
    have followed := Pattern.follow_exactly_of_ne ('>' :: front) behind different rest
    rw [← along] at followed
    have scanned : Lexeme.scan '>' (front ++ [last] ++ rest) =
        Lexeme.delimiterOr .macroEnd (Event.closing.spelling.map .exactly)
          ('>' :: front ++ last :: rest) := by
      rw [List.append_assoc]
      rfl
    rw [scanned, Lexeme.delimiterOr, followed]
    rfl

namespace Run

variable {σ : Type} (observe : σ → Event → σ)

/-- A text that falls into pieces is told piece by piece. -/
theorem Faces.told_pieces {run : Run σ} {pieces : List Text} {rest : Text}
    (faces : run.Faces (pieces.flatten ++ rest)) (breakOff : ∀ piece ∈ pieces, BreaksOff piece)
    (free : ∀ character ∈ pieces.flatten, character ∉ ['<', '%', '#']) :
    ∃ next : Run σ, ∃ count, Comes (.observing observe) run next count ∧ next.Faces rest ∧
      next.scope = run.scope ∧ next.state = (pieces.map Event.passage).foldl observe run.state := by
  induction pieces generalizing run with
  | nil => exact ⟨run, 0, comes_refl _ run, faces, rfl, rfl⟩
  | cons piece pieces inductionHypothesis =>
    obtain ⟨breaksOff, breakOffRest⟩ := List.forall_mem_cons.mp breakOff
    rw [List.flatten_cons] at faces free
    obtain ⟨freePiece, freeRest⟩ := List.forall_mem_append.mp free
    obtain ⟨first, word, rfl, scanned⟩ := breaksOff.scan freePiece
    have meant : run.scope.meaning .passthrough (first :: word) =
        .event (.passage (first :: word)) run.scope := by
      cases run.scope <;> rfl
    rw [List.append_assoc, List.cons_append] at faces
    obtain ⟨between, came, facing, sameScope, sameState⟩ :=
      faces.told observe (scanned _) meant
    obtain ⟨next, count, cameOn, facingRest, nextScope, nextState⟩ :=
      inductionHypothesis facing breakOffRest freeRest
    refine ⟨next, 1 + count, came.trans cameOn, facingRest, nextScope.trans sameScope, ?_⟩
    rw [nextState, sameState]
    rfl

/-- Behind the pieces of a settled body, the end of the body is told. -/
theorem Faces.told_closing {run : Run σ} {pieces : List Text}
    (faces : run.Faces (pieces.flatten ++ Event.closing.spelling)) (inside : run.scope = .inside)
    (breakOff : ∀ piece ∈ pieces, BreaksOff piece)
    (free : ∀ character ∈ pieces.flatten, character ∉ ['<', '%', '#']) :
    ∃ next : Run σ, ∃ count, Comes (.observing observe) run next count ∧ next.Faces [] ∧
      next.scope = .outside ∧
      next.state = (pieces.map Event.passage ++ [Event.closing]).foldl observe run.state := by
  obtain ⟨atEnd, count, came, facing, stillInside, told⟩ := faces.told_pieces observe breakOff free
  have leads : Event.closing.Leads atEnd.scope .outside := by
    rw [stillInside, inside]
    exact .closing
  rw [← List.append_nil (Event.spelling _)] at facing
  obtain ⟨next, cameOut, facingNothing, outside, closed⟩ :=
    facing.told_event observe trivial nofun leads
  refine ⟨next, _, came.trans cameOut, facingNothing, outside, ?_⟩
  rw [closed, told, List.foldl_append]
  rfl

/-- Behind a body that is not settled, its end is told as plain text, and the body stays open. -/
theorem Faces.told_past_closing {run : Run σ} {body : Text}
    (faces : run.Faces (body ++ Event.closing.spelling)) (unsettled : ¬Settled body)
    (free : ∀ character ∈ body, character ∉ ['<', '%', '#']) :
    ∃ next : Run σ, ∃ count, Comes (.observing observe) run next count ∧ next.Faces [] ∧
      next.scope = run.scope := by
  have noAngle : '<' ∉ body := fun member => free _ member (by decide)
  obtain ⟨pieces, breakOff, same⟩ := settled_append_of_not_settled noAngle unsettled
  have freeToo : ∀ character ∈ pieces.flatten, character ∉ ['<', '%', '#'] := by
    rw [← same]
    exact List.forall_mem_append.mpr ⟨free, by simp⟩
  have split : body ++ Event.closing.spelling = pieces.flatten ++ ['<', '<'] := by
    rw [← same, List.append_assoc]
    rfl
  rw [split] at faces
  obtain ⟨atEnd, count, came, facing, sameScope, _⟩ := faces.told_pieces observe breakOff freeToo
  -- What is left of the end is a `<<` without a name.
  have scanned : Lexeme.scan '<' (['<'] ++ []) = ⟨.passthrough, ['<', '<']⟩ := by decide
  have meant : atEnd.scope.meaning .passthrough ['<', '<'] =
      .event (.passage ['<', '<']) atEnd.scope := by
    cases atEnd.scope <;> rfl
  have facingAngles : atEnd.Faces ('<' :: (['<'] ++ [])) := facing
  obtain ⟨next, cameOn, facingNothing, stillSame, _⟩ := facingAngles.told observe scanned meant
  exact ⟨next, _, came.trans cameOn, facingNothing, stillSame.trans sameScope⟩

/-- With nothing in front of it and a body open, a run fails at the end of its input. -/
theorem Faces.unterminated {run : Run σ} (faces : run.Faces []) (inside : run.scope = .inside) :
    ∃ position outcome, run.step (.observing observe) = .ended outcome ∧
      outcome.verdict = .failed ⟨position, .unterminatedMacro⟩ := by
  have read : run.inputs.read = (run.inputs.current.endToken, run.inputs) := by
    rw [Inputs.read, Input.read_of_unread_eq_nil faces.unread]
  have meant : Scope.inside.meaning run.inputs.current.endToken.kind
      run.inputs.current.endToken.text = .refused .unterminatedMacro := rfl
  simp only [step, read, inside, meant, fail]
  exact ⟨_, _, rfl, rfl⟩

/-- A run that comes to its end, and to another run whose next step is the last one, has ended
with that step. -/
theorem go_of_comes {sink : Sink σ} {run next : Run σ} {count bound : Nat} {outcome : Outcome σ}
    (came : Comes sink run next count) (ended : next.step sink = .ended outcome)
    (ends : (run.go sink bound).verdict ≠ .exhausted) : run.go sink bound = outcome := by
  have enough : run.go sink (count + (bound + 1)) = run.go sink bound :=
    go_of_le ends (by omega)
  rw [← enough, came, go, ended]

end Run

/-- A source that ends inside of a body is complained about at its end. -/
theorem Source.position_of_unterminated {σ : Type} {observe : σ → Event → σ} {source : Source}
    {bound : Nat} {state : σ} {position : Position}
    (fails : ((Inputs.ofSource source).run (.observing observe) bound state).verdict =
      .failed ⟨position, .unterminatedMacro⟩) : position = source.ending := by
  have ends : ((Inputs.ofSource source).run (.observing observe) bound state).verdict ≠
      .exhausted := by rw [fails]; exact nofun
  obtain ⟨events, result, walks, verdict, _⟩ :=
    Source.exists_walks (Sink.observing_matches observe state) rfl ends
  obtain rfl : result = some ⟨position, .unterminatedMacro⟩ :=
    Verdict.ofResult_injective (verdict.symm.trans fails)
  have nothing : Token.Admits .outside [] .outside := ⟨rfl, fun _ member => nomatch member⟩
  have judged : source.FirstFault ⟨position, .unterminatedMacro⟩ :=
    Source.judged_of_walk walks rfl nothing
  cases judged with
  | ending => rfl
  | @token _ _ token _ _ _ _ blamed =>
    unfold Token.complaint? at blamed
    split at blamed <;> cases blamed

/-! ### The table of one body -/

/-- The macro of a single body of plain text evaluates to that text. -/
theorem MacroTable.evaluate_passages (kind : MacroKind) (name : Text) (pieces : List Text) :
    (ofEvents (Event.body kind name (pieces.map .passage))).evaluate name =
      .ok pieces.flatten := by
  have within : Event.Within .inside (pieces.map Event.passage) := by
    intro event member
    obtain ⟨piece, _, rfl⟩ := List.mem_map.mp member
    exact .passage .inside piece
  have fragments := Event.fragmentsOf_body within kind name name none []
  have found := get?_ofEvents_eq (Event.body kind name (pieces.map .passage)) name
  rw [if_pos ((Event.mem_opened_body within).mpr rfl), ← List.append_nil (Event.body ..),
    fragments, if_pos rfl, Event.fragmentsOf, List.append_nil, List.append_nil] at found
  refine (evaluate_eq_ok_iff found _).mpr ⟨pieces, ?_, rfl⟩
  have literal : (Event.fragment? ∘ Event.passage) = some ∘ Fragment.literal := rfl
  rw [List.filterMap_map, literal, List.filterMap_eq_map, List.forall₂_map_left_iff]
  exact List.forall₂_same.mpr fun piece _ => .literal piece

/-! ### Bodies that come back -/

/-- A name without a colon is written as it is. -/
theorem MacroKind.exists_bears_unmarked {name : Text} (free : ':' ∉ name) :
    ∃ kind : MacroKind, kind.marker = [] ∧ kind.Bears name := by
  by_cases isRoot : name = rootName
  · exact ⟨.root, rfl, isRoot⟩
  · refine ⟨.plain, rfl, isRoot, fun isFile => ?_, fun isSection => ?_⟩
    · exact free (isFile.subset (by decide))
    · exact free (isSection.subset (by decide))

/-- A body comes back verbatim exactly if it is settled. Over the document of a single macro, whose
name has no `>`, no colon and no newline and whose body none of the characters that open anything,
the run completes if the body is settled, and then the macro evaluates to the body. If the body is
not settled, its end is not seen, and the run fails at the end of the document. A body that ends
neither on `>` nor on `>>@` is always settled. -/
theorem runWith_verbatim (title name body : Text) (someName : name ≠ [])
    (nameFree : ∀ character ∈ name, character ∉ ['>', ':', '\n'])
    (bodyFree : ∀ character ∈ body, character ∉ ['<', '%', '#']) (bound : Nat) :
    let source : Source :=
      ⟨title, ['<', '<'] ++ name ++ ['>', '>', '='] ++ body ++ ['>', '>', '@', '<', '<']⟩
    let ran := (Processor.runWith { inputs := .ofSource source }
      (.observing MacroTable.Builder.observe) bound .start).1
    (Inputs.ofSource source).budget ≤ bound →
      (Settled body → ran.verdict = .completed ∧ ran.state.table.evaluate name = .ok body) ∧
      (¬Settled body → ran.verdict = .failed ⟨source.ending, .unterminatedMacro⟩) ∧
      (¬['>'] <:+ body → ¬['>', '>', '@'] <:+ body → Settled body) := by
  intro source ran enough
  have noAngle : '<' ∉ body := fun member => bodyFree _ member (by decide)
  have ends : ran.verdict ≠ .exhausted := (Sink.quiet_observing _).ends _ enough
  obtain ⟨kind, unmarked, bears⟩ :=
    MacroKind.exists_bears_unmarked fun member => nameFree _ member (by decide)
  have writable : (Event.opening kind name).Writable :=
    ⟨bears, fun _ => someName, fun member => nameFree _ member (by decide),
      fun member => nameFree _ member (by decide)⟩
  have spelled : source.text =
      (Event.opening kind name).spelling ++ (body ++ Event.closing.spelling) := by
    simp [source, Event.spelling, unmarked]
  have faces : (⟨.ofSource source, .outside, .start⟩ : Run MacroTable.Builder).Faces
      ((Event.opening kind name).spelling ++ (body ++ Event.closing.spelling)) :=
    ⟨⟨Input.underway_ofSource _, fun _ member => absurd member List.not_mem_nil⟩, rfl, spelled⟩
  obtain ⟨opened, cameIn, facing, inside, openedState⟩ :=
    faces.told_event MacroTable.Builder.observe writable
      (fun _ isReference => absurd isReference (by simp)) (.opening kind name)
  refine ⟨fun settled => ?_, fun unsettled => ?_, settled_of_not_suffix noAngle⟩
  · obtain ⟨pieces, breakOff, rfl⟩ := settled
    obtain ⟨closed, _, cameOut, facingNothing, outside, closedState⟩ :=
      facing.told_closing MacroTable.Builder.observe inside breakOff bodyFree
    obtain ⟨completed, _, _⟩ := facingNothing.completed MacroTable.Builder.observe outside
    have finished : ran = ⟨.completed, closed.inputs, closed.state⟩ :=
      Run.go_of_comes (cameIn.trans cameOut) completed ends
    have built : closed.state.table =
        .ofEvents (Event.body kind name (pieces.map .passage)) := by
      rw [closedState, openedState]
      rfl
    rw [finished]
    exact ⟨rfl, built ▸ MacroTable.evaluate_passages kind name pieces⟩
  · obtain ⟨still, _, cameOn, facingNothing, sameScope⟩ :=
      facing.told_past_closing MacroTable.Builder.observe unsettled bodyFree
    obtain ⟨position, outcome, ended, failed⟩ :=
      facingNothing.unterminated MacroTable.Builder.observe (sameScope.trans inside)
    have finished : ran = outcome := Run.go_of_comes (cameIn.trans cameOn) ended ends
    have fails : ran.verdict = .failed ⟨position, .unterminatedMacro⟩ := finished ▸ failed
    rw [fails, Source.position_of_unterminated fails]

/-- The root's body ends on the character that its end starts with, and is settled nevertheless:
the three of it break off the end together. -/
theorem runWith_verbatim_three_angles :
    let source : Source := ⟨['d'], Text.ofString "<<*>>=>>>>>@<<"⟩
    let ran := (Processor.runWith { inputs := .ofSource source }
      (.observing MacroTable.Builder.observe) 15 .start).1
    Settled ['>', '>', '>'] ∧ ran.verdict = .completed ∧
      ran.state.table.evaluate ['*'] = .ok ['>', '>', '>'] := by
  have settled : Settled ['>', '>', '>'] :=
    BreaksOff.settled ⟨['>', '>'], '@', ['<', '<'], '>', rfl, by decide, rfl⟩
  obtain ⟨comesBack, _, _⟩ := runWith_verbatim ['d'] ['*'] ['>', '>', '>'] (by decide) (by simp)
    (by simp) 15 (by decide)
  exact ⟨settled, comesBack settled⟩

/-- A body of a single `>` does not come back. It and the start of its end are read as one piece,
and the run fails at the end of the document. -/
theorem runWith_not_verbatim :
    let source : Source := ⟨['d'], Text.ofString "<<a>>=>>>@<<"⟩
    let ran := (Processor.runWith { inputs := .ofSource source }
      (.observing MacroTable.Builder.observe) 13 .start).1
    source.text = ['<', '<'] ++ ['a'] ++ ['>', '>', '='] ++ ['>'] ++ ['>', '>', '@', '<', '<'] ∧
      (∀ character ∈ ['a'], character ∉ ['>', ':', '\n']) ∧
      (∀ character ∈ ['>'], character ∉ ['<', '%', '#']) ∧
      ran.verdict = .failed ⟨⟨['d'], 1, 12, 1, 12⟩, .unterminatedMacro⟩ :=
  ⟨rfl, by simp, by simp, by decide⟩

end Literate
