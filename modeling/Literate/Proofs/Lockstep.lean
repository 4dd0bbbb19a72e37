/-
This file compares runs over the same inputs with different sinks. A run depends on
its sink only through the answers to directives. So two sinks whose states correspond,
and which answer every directive alike, are driven in lockstep: the runs read the same
tokens, come to the same verdict and leave the same inputs behind, and the states still
correspond.

In this way any sink can be watched by a log of the events it is told, without a
difference to the run, and all sinks that open nothing and never fail see one and the
same run: the walk over the tokens of the source, on which nothing is opened.
-/

import Literate.Proofs.Walking

namespace Literate

variable {σ τ : Type}

namespace Sink

/-! ### Sinks that answer alike -/

/-- Two sinks keep their states related and answer directives alike. -/
structure Matches (first : Sink σ) (second : Sink τ) (related : σ → τ → Prop) : Prop where
  event : ∀ {left : σ} {right : τ} (event : Event), related left right →
    related (first.event left event) (second.event right event)
  opening : ∀ {left : σ} {right : τ} (given : Directive) (inputs : Inputs), related left right →
    (first.directive left given inputs).toOpening =
      (second.directive right given inputs).toOpening
  directive : ∀ {left : σ} {right : τ} (given : Directive) (inputs : Inputs), related left right →
    related (first.directive left given inputs).state (second.directive right given inputs).state

/-- A sink together with the list of the events that it has been told. -/
def logged (sink : Sink σ) : Sink (List Event × σ) where
  event state event := (state.1 ++ [event], sink.event state.2 event)
  directive state given inputs :=
    { toOpening := (sink.directive state.2 given inputs).toOpening
      state := (state.1 ++ [.directive given], (sink.directive state.2 given inputs).state) }

theorem logged_matches (sink : Sink σ) :
    sink.logged.Matches sink fun watched state => watched.2 = state where
  event event same := congrArg (sink.event · event) same
  opening given inputs same :=
    congrArg (fun state => (sink.directive state given inputs).toOpening) same
  directive given inputs same :=
    congrArg (fun state => (sink.directive state given inputs).state) same

/-- A sink that opens nothing and never fails. -/
def Quiet (sink : Sink σ) : Prop :=
  ∀ state given inputs, (sink.directive state given inputs).toOpening = {}

theorem quiet_observing (observe : σ → Event → σ) : (observing observe).Quiet :=
  fun _ _ _ => rfl

theorem Quiet.matches {first : Sink σ} {second : Sink τ} (firstQuiet : first.Quiet)
    (secondQuiet : second.Quiet) : first.Matches second fun _ _ => True where
  event _ _ := trivial
  opening given inputs _ := (firstQuiet _ given inputs).trans (secondQuiet _ given inputs).symm
  directive _ _ _ := trivial

end Sink

/-! ### Runs in lockstep -/

/-- Two runs have both gone on or both ended, in the same way and with related states. -/
inductive Progress.Related (related : σ → τ → Prop) : Progress σ → Progress τ → Prop where
  | running {inputs : Inputs} {scope : Scope} {left : σ} {right : τ} : related left right →
      Related related (.running ⟨inputs, scope, left⟩) (.running ⟨inputs, scope, right⟩)
  | ended {verdict : Verdict} {inputs : Inputs} {left : σ} {right : τ} : related left right →
      Related related (.ended ⟨verdict, inputs, left⟩) (.ended ⟨verdict, inputs, right⟩)

namespace Run

variable {first : Sink σ} {second : Sink τ} {related : σ → τ → Prop}

theorem related_answer (alike : first.Matches second related) {left : σ} {right : τ}
    (same : related left right) (inputs : Inputs) (scope : Scope) (token : Token)
    (given : Directive) :
    Progress.Related related (answer first inputs scope left token given)
      (answer second inputs scope right token given) := by
  have opening := alike.opening given inputs same
  have states := alike.directive given inputs same
  unfold answer
  dsimp only
  rw [opening]
  cases (second.directive right given inputs).failure with
  | none => exact .running states
  | some error => exact .ended states

theorem related_resume {left : σ} {right : τ} (same : related left right) (inputs : Inputs)
    (scope : Scope) :
    Progress.Related related (resume inputs scope left) (resume inputs scope right) := by
  unfold resume
  cases inputs.resume? with
  | none => exact .ended same
  | some resumed => exact .running same

/-- One step with either sink does the same to related states. -/
theorem related_step (alike : first.Matches second related) {left : σ} {right : τ}
    (same : related left right) (inputs : Inputs) (scope : Scope) :
    Progress.Related related (step first ⟨inputs, scope, left⟩)
      (step second ⟨inputs, scope, right⟩) := by
  simp only [step]
  cases scope.meaning inputs.read.1.kind inputs.read.1.text with
  | ended => exact related_resume same _ _
  | refused complaint => exact .ended same
  | event event after =>
    cases event with
    | directive given => exact related_answer alike same _ _ _ given
    | passage | opening | closing | reference | substitution =>
      exact .running (alike.event _ same)

/-- Two runs with sinks that answer alike come to the same end. -/
theorem go_matches (alike : first.Matches second related) (bound : Nat) {left : σ} {right : τ}
    (same : related left right) (inputs : Inputs) (scope : Scope) :
    (go first bound ⟨inputs, scope, left⟩).verdict =
        (go second bound ⟨inputs, scope, right⟩).verdict ∧
      (go first bound ⟨inputs, scope, left⟩).inputs =
        (go second bound ⟨inputs, scope, right⟩).inputs ∧
      related (go first bound ⟨inputs, scope, left⟩).state
        (go second bound ⟨inputs, scope, right⟩).state := by
  induction bound generalizing inputs scope left right with
  | zero => exact ⟨rfl, rfl, same⟩
  | succ bound inductionHypothesis =>
    have stepped := related_step alike same inputs scope
    rw [go, go]
    generalize step first ⟨inputs, scope, left⟩ = leftProgress at stepped
    generalize step second ⟨inputs, scope, right⟩ = rightProgress at stepped
    cases stepped with
    | running stillSame => exact inductionHypothesis stillSame _ _
    | ended stillSame => exact ⟨rfl, rfl, stillSame⟩

end Run

/-! ### Runs over one source -/

/-- A run over a source that answers directives like an opener, and that comes to its end, has
gone along the walk over the source. -/
theorem Source.exists_walks {opener : Opener} {sink : Sink σ} {related : σ → List Event → Prop}
    (alike : sink.Matches (.opening opener) related) {state : σ} (start : related state [])
    {source : Source} {bound : Nat}
    (ends : ((Inputs.ofSource source).run sink bound state).verdict ≠ .exhausted) :
    ∃ events result, source.Walks opener events result ∧
      ((Inputs.ofSource source).run sink bound state).verdict = .ofResult result ∧
      related ((Inputs.ofSource source).run sink bound state).state events := by
  obtain ⟨sameVerdict, _, stillRelated⟩ :=
    Run.go_matches alike bound start (.ofSource source) .outside
  rw [Inputs.run, sameVerdict] at ends ⊢
  obtain ⟨events, result, walk⟩ :=
    Walk.foundWithin opener bound (.ofSource source) [] .outside [] [] ends
  rw [Input.endToken_finish] at walk
  have walks : source.Walks opener events result := walk
  obtain ⟨enough, left, _, runs⟩ := walks.run
  have settled : Run.go (.opening opener) bound ⟨.ofSource source, .outside, []⟩ =
      ⟨.ofResult result, left, events⟩ :=
    (Run.go_of_le ends (Nat.le_max_left bound enough)).symm.trans
      (runs _ (Nat.le_max_right bound enough))
  rw [settled] at stillRelated ⊢
  exact ⟨events, result, walks, rfl, stillRelated⟩

/-- Nothing is opened at any directive. -/
abbrev Opener.nothing : Opener := fun _ _ => []

theorem Event.opens_nothing (names : List Text) (event : Event) :
    event.opens .nothing names = [] := by
  cases event <;> rfl

theorem Sink.quiet_opening_nothing : (Sink.opening .nothing).Quiet := fun _ _ _ => rfl

theorem Sink.observing_matches (observe : σ → Event → σ) (start : σ) :
    (observing observe).Matches (.opening .nothing)
      fun state events => state = events.foldl observe start where
  event event same := by
    rw [same]
    exact (List.foldl_concat ..).symm
  opening _ _ _ := rfl
  directive given _ same := by
    rw [same]
    exact (List.foldl_concat ..).symm

/-- With enough steps, a sink that opens nothing and never fails lets a run come to its end. -/
theorem Sink.Quiet.ends {sink : Sink σ} (quiet : sink.Quiet) (state : σ) {source : Source}
    {bound : Nat} (enough : (Inputs.ofSource source).budget ≤ bound) :
    ((Inputs.ofSource source).run sink bound state).verdict ≠ .exhausted := by
  have underway : (Inputs.ofSource source).All Input.Underway :=
    ⟨Input.underway_ofSource source, nofun⟩
  have ending := Run.go_recording underway enough
  generalize finished : (Inputs.ofSource source).run .recording bound [] = outcome at ending
  have sameVerdict : ((Inputs.ofSource source).run sink bound state).verdict = outcome.verdict :=
    finished ▸ (Run.go_matches (quiet.matches (quiet_observing _)) bound trivial _ _).1
  rw [sameVerdict]
  cases ending <;> exact nofun

namespace Walk

variable {names : List Text} {ending : Position}

/-- What holds at the end of a source and where a token is refused, and what each token that is an
event keeps, holds of every walk on which nothing is opened. -/
@[elab_as_elim]
theorem nothing_induction
    {motive : ∀ scope tokens events result,
      Walk .nothing names ending scope [] tokens events result → Prop}
    (ended : motive .outside [] [] none .ended)
    (unterminated : motive .inside [] [] (some ⟨ending, .unterminatedMacro⟩) .unterminated)
    (refused : ∀ {scope : Scope} {token : Token} {tokens : List Token} {complaint : Complaint}
      (meant : scope.meaning token.kind token.text = .refused complaint),
      motive scope (token :: tokens) [] (some ⟨token.position, complaint⟩) (.refused meant))
    (event : ∀ {scope after : Scope} {token : Token} {tokens : List Token} {event : Event}
      {events : List Event} {result : Option RunError}
      (meant : scope.meaning token.kind token.text = .event event after)
      (rest : Walk .nothing names ending after [] tokens events result),
      motive after tokens events result rest →
      motive scope (token :: tokens) (event :: events) result
        (.event meant ((event.opens_nothing names).symm ▸ rest)))
    {scope : Scope} {tokens : List Token} {events : List Event} {result : Option RunError}
    (walk : Walk .nothing names ending scope [] tokens events result) :
    motive scope tokens events result walk := by
  have general : ∀ {opener : Opener} {place : Position} {way : List Text} {opened : List Source}
      {scope : Scope} {tokens : List Token} {events : List Event} {result : Option RunError},
      Walk opener way place scope opened tokens events result → opener = .nothing → place = ending →
        way = names → opened = [] → ∀ walk, motive scope tokens events result walk := by
    intro opener place way opened scope tokens events result walked
    induction walked with
    | ended => exact fun _ _ _ _ _ => ended
    | unterminated =>
      rintro _ rfl _ _ _
      exact unterminated
    | refused meant => exact fun _ _ _ _ _ => refused meant
    | @event way _ _ _ _ _ told _ _ meant rest inductionHypothesis =>
      rintro rfl rfl rfl - _
      have none := told.opens_nothing way
      exact event meant (none ▸ rest) (inductionHypothesis rfl rfl rfl none (none ▸ rest))
    | included | stopped =>
      exact fun _ _ _ none => absurd none (List.append_ne_nil_of_right_ne_nil _ nofun)
  exact general walk rfl rfl rfl rfl walk

end Walk

end Literate
