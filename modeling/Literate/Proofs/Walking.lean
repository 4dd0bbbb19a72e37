/-
This file proves that the stack of inputs is read as a tree. A directive opens
sources, whose own directives open further sources, and so on; the tree of all of
them can be walked by recursion, which knows no stack and no cursor. The walk takes
the tokens of a source one after the other; behind a directive it walks the sources
that were opened there, each from its beginning and the last one first, and then goes
on with the tokens that are left. It stops at the first token that may not stand
where it does, and at the end of a source inside of a body.

A run comes to its end exactly if the walk does, with the same events and the same
result. In one direction every finite walk is followed by the run, by induction over
the walk: while an opened source is walked, the stack below it does not change. In
the other direction a run that ends after so many steps leaves fewer steps for
everything that is walked in it, so that the walk is found by induction over the
number of steps.
-/

import Literate.Proofs.RoundTrip

namespace Literate

/-! ### Names on the stack -/

namespace Input

/-! ### The tokens of an input -/

theorem next?_of_readAll {input finish : Input} (same : input.readAll = ([], finish)) :
    input.next? = none ∧ finish = input := by
  by_cases ended : input.next? = none
  · rw [readAll_of_next?_eq_none ended] at same
    cases same
    exact ⟨ended, rfl⟩
  · rw [readAll_of_next?_ne_none ended] at same
    cases same

theorem read_of_readAll {input finish : Input} {token : Token} {tokens : List Token}
    (same : input.readAll = (token :: tokens, finish)) :
    input.read.1 = token ∧ input.read.2.readAll = (tokens, finish) := by
  by_cases ended : input.next? = none
  · rw [readAll_of_next?_eq_none ended] at same
    cases same
  · rw [readAll_of_next?_ne_none ended] at same
    cases same
    exact ⟨rfl, rfl⟩

theorem next?_readAll (input : Input) : input.readAll.2.next? = none := by
  induction input using reading_induction with
  | ended input ended =>
    rw [readAll_of_next?_eq_none ended]
    exact ended
  | more input more inductionHypothesis =>
    rw [readAll_of_next?_ne_none more]
    exact inductionHypothesis

end Input

namespace Inputs

theorem activeNames_read (inputs : Inputs) : inputs.read.2.activeNames = inputs.activeNames := by
  show inputs.suspendedNames ++ [inputs.current.read.2.source] = inputs.activeNames
  rw [Input.source_read]
  rfl

theorem read_of_ended (inputs : Inputs) (ended : inputs.current.next? = none) :
    inputs.read = (inputs.current.endToken, inputs) := by
  rw [read, Input.read_of_next?_eq_none ended]

theorem activeNames_push (inputs : Inputs) (source : Source) :
    (inputs.push source).activeNames = inputs.activeNames ++ [source.name] := by
  show ((inputs.current :: inputs.suspended).map Input.source).reverse ++ [source.name] =
    inputs.activeNames ++ [source.name]
  rw [List.map_cons, List.reverse_cons]
  rfl

theorem pushAll_concat (inputs : Inputs) (sources : List Source) (source : Source) :
    inputs.pushAll (sources ++ [source]) = (inputs.pushAll sources).push source := by
  rw [pushAll, List.foldl_append]
  rfl

theorem activeNames_pushAll (inputs : Inputs) (sources : List Source) :
    (inputs.pushAll sources).activeNames = inputs.activeNames ++ sources.map Source.name := by
  induction sources generalizing inputs with
  | nil => exact (List.append_nil _).symm
  | cons source sources inductionHypothesis =>
    rw [show inputs.pushAll (source :: sources) = (inputs.push source).pushAll sources from rfl,
      inductionHypothesis, activeNames_push, List.append_assoc]
    rfl

theorem activeNames_push_pushAll (inputs : Inputs) (sources : List Source) (source : Source) :
    ((inputs.pushAll sources).push source).activeNames =
      inputs.activeNames ++ sources.map Source.name ++ [source.name] := by
  rw [activeNames_push, activeNames_pushAll]

end Inputs

/-! ### The walk -/

/-- The place where a source ends. -/
def Source.ending (source : Source) : Position :=
  .ofStart source.name (Text.lineAfter source.text) (Text.columnAfter source.text) 0

/-- What is opened at a directive, told by the directive and the names of the inputs from the
outermost to the current one. -/
abbrev Opener := Directive → List Text → List Source

/-- What is opened at an event. Only directives open anything. -/
def Event.opens (opener : Opener) (names : List Text) : Event → List Source
  | .directive given => opener given names
  | _ => []

/-- A walk over what is left of a source. The names lead to the source from the outermost one,
`opened` are the sources that are to be walked before its tokens go on, and `ending` is where it
ends. The walk tells events, and it stops with an error or comes to the end of the source. -/
inductive Walk (opener : Opener) : List Text → Position → Scope → List Source → List Token →
    List Event → Option RunError → Prop where
  /-- The source has ended outside of a body. -/
  | ended {names : List Text} {ending : Position} : Walk opener names ending .outside [] [] [] none
  /-- The source has ended inside of a body. -/
  | unterminated {names : List Text} {ending : Position} :
      Walk opener names ending .inside [] [] [] (some ⟨ending, .unterminatedMacro⟩)
  /-- A token may not stand where it does. -/
  | refused {names : List Text} {ending : Position} {scope : Scope} {token : Token}
      {tokens : List Token} {complaint : Complaint} :
      scope.meaning token.kind token.text = .refused complaint →
      Walk opener names ending scope [] (token :: tokens) [] (some ⟨token.position, complaint⟩)
  /-- A token is an event. What the event opens is walked next. -/
  | event {names : List Text} {ending : Position} {scope after : Scope} {token : Token}
      {tokens : List Token} {event : Event} {events : List Event} {result : Option RunError} :
      scope.meaning token.kind token.text = .event event after →
      Walk opener names ending after (event.opens opener names) tokens events result →
      Walk opener names ending scope [] (token :: tokens) (event :: events) result
  /-- The source opened last is walked to its end. -/
  | included {names : List Text} {ending : Position} {scope : Scope} {opened : List Source}
      {source : Source} {tokens : List Token} {first second : List Event}
      {result : Option RunError} :
      Walk opener (names ++ opened.map Source.name ++ [source.name]) source.ending scope []
        source.tokens first none →
      Walk opener names ending .outside opened tokens second result →
      Walk opener names ending scope (opened ++ [source]) tokens (first ++ second) result
  /-- The walk stops in the source opened last. -/
  | stopped {names : List Text} {ending : Position} {scope : Scope} {opened : List Source}
      {source : Source} {tokens : List Token} {events : List Event} {error : RunError} :
      Walk opener (names ++ opened.map Source.name ++ [source.name]) source.ending scope []
        source.tokens events (some error) →
      Walk opener names ending scope (opened ++ [source]) tokens events (some error)

/-- The walk over a source that nothing has led to. -/
def Source.Walks (opener : Opener) (source : Source) (events : List Event)
    (result : Option RunError) : Prop :=
  Walk opener [source.name] source.ending .outside [] source.tokens events result

/-! ### Runs that open sources -/

/-- A sink that keeps every event in order and opens sources at directives. -/
def Sink.opening (opener : Opener) : Sink (List Event) where
  event events event := events ++ [event]
  directive events given inputs :=
    { state := events ++ [.directive given], opened := opener given inputs.activeNames }

/-- The verdict on a run with the result of a walk. -/
def Verdict.ofResult : Option RunError → Verdict
  | none => .completed
  | some error => .failed error

namespace Run

section

variable (opener : Opener)

theorem step_opening (run : Run (List Event)) {event : Event} {after : Scope}
    (meant : run.scope.meaning run.inputs.read.1.kind run.inputs.read.1.text =
      .event event after) :
    run.step (.opening opener) = .running
      ⟨run.inputs.read.2.pushAll (event.opens opener run.inputs.activeNames), after,
        run.state ++ [event]⟩ := by
  rw [← Inputs.activeNames_read]
  simp only [step, meant]
  cases event <;> rfl

theorem step_refused (run : Run (List Event)) {complaint : Complaint}
    (meant : run.scope.meaning run.inputs.read.1.kind run.inputs.read.1.text =
      .refused complaint) :
    run.step (.opening opener) = .ended
      ⟨.failed ⟨run.inputs.read.1.position, complaint⟩, run.inputs.read.2, run.state⟩ := by
  simp only [step, meant]
  rfl

variable {finish : Input} (ended : finish.next? = none)
include ended

theorem step_resumed (input : Input) (suspended : List Input) (state : List Event) :
    step (.opening opener) ⟨⟨finish, input :: suspended⟩, .outside, state⟩ =
      .running ⟨⟨input, suspended⟩, .outside, state⟩ := by
  have read := Inputs.read_of_ended ⟨finish, input :: suspended⟩ ended
  simp only [step, read]
  rfl

theorem step_completed (state : List Event) :
    step (.opening opener) ⟨⟨finish, []⟩, .outside, state⟩ =
      .ended ⟨.completed, ⟨finish, []⟩, state⟩ := by
  have read := Inputs.read_of_ended ⟨finish, []⟩ ended
  simp only [step, read]
  rfl

theorem step_unterminated (suspended : List Input) (state : List Event) :
    step (.opening opener) ⟨⟨finish, suspended⟩, .inside, state⟩ =
      .ended ⟨.failed ⟨finish.endToken.position, .unterminatedMacro⟩, ⟨finish, suspended⟩,
        state⟩ := by
  have read := Inputs.read_of_ended ⟨finish, suspended⟩ ended
  simp only [step, read]
  rfl

end

/-! ### A run follows the walk -/

/-- A run does what a walk over the rest of an input does. It comes to the end of the input,
with everything below it as it was, or it fails with the error of the walk; in either case it has
told the events of the walk. -/
def Follows (opener : Opener) (run : Run (List Event)) (finish : Input) (suspended : List Input)
    (events : List Event) : Option RunError → Prop
  | none => ∃ count, Comes (.opening opener) run
      ⟨⟨finish, suspended⟩, .outside, run.state ++ events⟩ count
  | some error => ∃ count inputs, ∀ bound,
      run.go (.opening opener) (count + bound) = ⟨.failed error, inputs, run.state ++ events⟩

variable {opener : Opener} {run : Run (List Event)} {finish : Input} {suspended : List Input}

theorem Comes.resumed {inputs : Inputs} {state : List Event} {count : Nat}
    (came : Comes (.opening opener) run
      ⟨⟨finish, inputs.current :: inputs.suspended⟩, .outside, state⟩ count)
    (ended : finish.next? = none) :
    Comes (.opening opener) run ⟨inputs, .outside, state⟩ (count + 1) :=
  came.trans (comes_of_step (step_resumed opener ended _ _ state))

theorem Follows.behind {next : Run (List Event)} {count : Nat} {first second : List Event}
    {result : Option RunError} (came : Comes (.opening opener) run next count)
    (told : next.state = run.state ++ first)
    (follows : next.Follows opener finish suspended second result) :
    run.Follows opener finish suspended (first ++ second) result := by
  cases result with
  | none =>
    obtain ⟨more, cameOn⟩ := follows
    rw [told, List.append_assoc] at cameOn
    exact ⟨count + more, came.trans cameOn⟩
  | some error =>
    obtain ⟨more, inputs, fails⟩ := follows
    refine ⟨count + more, inputs, fun bound => ?_⟩
    rw [Nat.add_assoc, came, fails, told, List.append_assoc]

theorem follows_of_ended {error : RunError} {inputs : Inputs}
    (made : run.step (.opening opener) = .ended ⟨.failed error, inputs, run.state⟩) :
    run.Follows opener finish suspended [] (some error) := by
  refine ⟨1, inputs, fun bound => ?_⟩
  rw [Nat.add_comm, go, made, List.append_nil]

end Run

theorem Input.endToken_finish (source : Source) :
    (ofSource source).readAll.2.endToken.position = source.ending := by
  obtain ⟨stands, nothingLeft⟩ := (stands_ofSource source).readAll
  rw [stands.endToken nothingLeft]
  rfl

namespace Walk

variable {opener : Opener} {names : List Text} {ending : Position} {scope : Scope}
  {opened : List Source} {tokens : List Token} {events : List Event} {result : Option RunError}

/-- A finite walk over what is left of an input is followed by the run, whatever is suspended
below the input. -/
theorem follows (walk : Walk opener names ending scope opened tokens events result)
    {input finish : Input} (same : input.readAll = (tokens, finish))
    (place : finish.endToken.position = ending) (suspended : List Input)
    (sameNames : (⟨input, suspended⟩ : Inputs).activeNames = names) (state : List Event) :
    Run.Follows opener ⟨(⟨input, suspended⟩ : Inputs).pushAll opened, scope, state⟩ finish
      suspended events result := by
  induction walk generalizing input finish suspended state with
  | ended =>
    obtain ⟨_, rfl⟩ := Input.next?_of_readAll same
    refine ⟨0, ?_⟩
    rw [List.append_nil]
    exact Run.comes_refl _ _
  | unterminated =>
    obtain ⟨ended, rfl⟩ := Input.next?_of_readAll same
    exact place ▸ Run.follows_of_ended (Run.step_unterminated opener ended suspended state)
  | @refused _ _ scope _ _ _ meant =>
    obtain ⟨rfl, _⟩ := Input.read_of_readAll same
    exact Run.follows_of_ended (Run.step_refused opener ⟨⟨input, suspended⟩, scope, state⟩ meant)
  | @event _ _ scope _ _ _ event _ _ meant _ inductionHypothesis =>
    obtain ⟨rfl, sameRest⟩ := Input.read_of_readAll same
    have made := Run.step_opening opener ⟨⟨input, suspended⟩, scope, state⟩ meant
    have names := Inputs.activeNames_read ⟨input, suspended⟩
    rw [sameNames] at made names
    have told : state ++ [event] = state ++ [event] := rfl
    have follows := Run.Follows.behind (Run.comes_of_step made) told
      (inductionHypothesis sameRest place suspended names (state ++ [event]))
    exact follows
  | @included _ _ _ opened source _ first _ _ _ _ walkedFirst walkedRest =>
    have names := Inputs.activeNames_push_pushAll ⟨input, suspended⟩ opened source
    rw [sameNames] at names
    rw [Inputs.pushAll_concat]
    -- The source opened last is walked on top of those opened before it, which then go on.
    obtain ⟨count, came⟩ := walkedFirst rfl (Input.endToken_finish source) _ names state
    exact Run.Follows.behind (came.resumed (Input.next?_readAll _)) rfl
      (walkedRest same place suspended sameNames (state ++ first))
  | @stopped _ _ _ opened source _ _ _ _ walkedFirst =>
    have names := Inputs.activeNames_push_pushAll ⟨input, suspended⟩ opened source
    rw [sameNames] at names
    rw [Inputs.pushAll_concat]
    exact walkedFirst rfl (Input.endToken_finish source) _ names state

end Walk

/-! ### A run that ends has a walk -/

theorem Run.Comes.ends {sink : Sink (List Event)} {run next : Run (List Event)} {count bound : Nat}
    (came : Comes sink run next count) (ended : (run.go sink bound).verdict ≠ .exhausted) :
    ∃ rest, bound = count + rest ∧ (next.go sink rest).verdict ≠ .exhausted := by
  have enough : count ≤ bound := by
    by_contra less
    have stillRunning := came 0
    rw [go_of_le ended (by omega)] at stillRunning
    rw [stillRunning] at ended
    exact ended rfl
  obtain ⟨rest, rfl⟩ := Nat.exists_eq_add_of_le enough
  rw [came] at ended
  exact ⟨rest, rfl, ended⟩

/-- A token in front of the end of an input does not mean the end. -/
theorem Input.meaning_read_ne_ended {input : Input} (more : input.next? ≠ none) (scope : Scope) :
    scope.meaning input.read.1.kind input.read.1.text ≠ .ended := by
  intro meant
  have fits := input.legible_read.fits_meaning scope
  rw [meant] at fits
  obtain ⟨_, empty⟩ := fits
  exact more (next?_of_unread_eq_nil (unread_of_read_text_eq_nil empty))

namespace Walk

/-- Whatever is left of an input and opened above it has a finite walk, if the run over it ends
within so many steps. -/
def FoundWithin (opener : Opener) (bound : Nat) : Prop :=
  ∀ (input : Input) (suspended : List Input) (scope : Scope) (opened : List Source)
    (state : List Event),
    (Run.go (.opening opener) bound
      ⟨(⟨input, suspended⟩ : Inputs).pushAll opened, scope, state⟩).verdict ≠ .exhausted →
    ∃ events result, Walk opener (⟨input, suspended⟩ : Inputs).activeNames
      input.readAll.2.endToken.position scope opened input.readAll.1 events result

variable {opener : Opener} {bound : Nat}

/-- With nothing opened, the walk takes the next token as the run does. -/
theorem exists_of_tokens (earlier : ∀ fewer < bound, FoundWithin opener fewer) (input : Input)
    (suspended : List Input) (scope : Scope) (state : List Event)
    (ends : (Run.go (.opening opener) bound ⟨⟨input, suspended⟩, scope, state⟩).verdict ≠
      .exhausted) :
    ∃ events result, Walk opener (⟨input, suspended⟩ : Inputs).activeNames
      input.readAll.2.endToken.position scope [] input.readAll.1 events result := by
  by_cases ended : input.next? = none
  · rw [Input.readAll_of_next?_eq_none ended]
    cases scope with
    | outside => exact ⟨[], none, .ended⟩
    | inside => exact ⟨[], _, .unterminated⟩
  · rw [Input.readAll_of_next?_ne_none ended]
    cases meant : scope.meaning input.read.1.kind input.read.1.text with
    | ended => exact absurd meant (Input.meaning_read_ne_ended ended scope)
    | refused complaint => exact ⟨[], _, .refused meant⟩
    | event event after =>
      have made := Run.step_opening opener ⟨⟨input, suspended⟩, scope, state⟩ meant
      obtain ⟨rest, rfl, restEnds⟩ := (Run.comes_of_step made).ends ends
      obtain ⟨events, result, walk⟩ :=
        earlier rest (by omega) input.read.2 suspended after _ _ restEnds
      rw [show (⟨input.read.2, suspended⟩ : Inputs).activeNames = _ from
        Inputs.activeNames_read ⟨input, suspended⟩] at walk
      exact ⟨event :: events, result, .event meant walk⟩

theorem foundWithin (opener : Opener) (bound : Nat) : FoundWithin opener bound := by
  induction bound using Nat.strongRecOn with
  | ind bound earlier =>
    intro input suspended scope opened state ends
    rcases List.eq_nil_or_concat opened with rfl | ⟨opened, source, rfl⟩
    · exact exists_of_tokens earlier input suspended scope state ends
    · rw [List.concat_eq_append, Inputs.pushAll_concat] at ends
      rw [List.concat_eq_append]
      obtain ⟨first, result, walk⟩ :=
        exists_of_tokens earlier (.ofSource source) _ scope state ends
      have sameNames := Inputs.activeNames_push_pushAll ⟨input, suspended⟩ opened source
      rw [Input.endToken_finish, show Inputs.activeNames ⟨.ofSource source, _⟩ = _ from sameNames]
        at walk
      cases result with
      | some error => exact ⟨first, some error, .stopped walk⟩
      | none =>
        obtain ⟨count, came⟩ := walk.follows rfl (Input.endToken_finish source) _ sameNames state
        obtain ⟨rest, rfl, restEnds⟩ := (came.resumed (Input.next?_readAll _)).ends ends
        obtain ⟨second, result, walkRest⟩ :=
          earlier rest (by omega) input suspended .outside opened _ restEnds
        exact ⟨first ++ second, result, .included walk walkRest⟩

end Walk

/-! ### The stack is a tree -/

theorem Verdict.ofResult_injective {first second : Option RunError}
    (same : ofResult first = ofResult second) : first = second := by
  cases first <;> cases second <;> cases same <;> rfl

theorem Verdict.ofResult_ne_exhausted (result : Option RunError) :
    ofResult result ≠ .exhausted := by
  cases result <;> exact nofun

/-- With enough steps a run comes out as the walk does. -/
theorem Source.Walks.run {opener : Opener} {source : Source} {events : List Event}
    {result : Option RunError} (walks : source.Walks opener events result) :
    ∃ enough left, (result = none → left = ⟨(Input.ofSource source).readAll.2, []⟩) ∧
      ∀ bound, enough ≤ bound →
        (Inputs.ofSource source).run (.opening opener) bound [] =
          ⟨.ofResult result, left, events⟩ := by
  have follows := walks.follows rfl (Input.endToken_finish source) [] rfl []
  cases result with
  | none =>
    obtain ⟨count, came⟩ := follows
    refine ⟨count + 1, _, fun _ => rfl, fun bound more => ?_⟩
    obtain ⟨rest, rfl⟩ := Nat.exists_eq_add_of_le more
    have completed := Run.step_completed opener (Input.next?_readAll (.ofSource source)) events
    rw [Nat.add_assoc, Nat.add_comm 1]
    refine (came (rest + 1)).trans ?_
    rw [Run.go, List.nil_append, completed]
    rfl
  | some error =>
    obtain ⟨count, left, fails⟩ := follows
    refine ⟨count, left, ?_, ?_⟩
    · intro completed
      cases completed
    · intro bound more
      obtain ⟨rest, rfl⟩ := Nat.exists_eq_add_of_le more
      exact fails rest

/-- The stack of inputs is read as a tree. A run over a source that opens sources at directives
comes to its end exactly if the walk over the source is finite. However many further steps it
may take, it has told the events of the walk in their order, and it has completed or failed as
the walk does, with the same error at the same place of the same source. When it has completed,
nothing is suspended, and the source it started with has been read to its end. -/
theorem run_iff_walks (opener : Opener) (source : Source) (events : List Event)
    (result : Option RunError) :
    let processor : Processor (List Event) := { inputs := .ofSource source }
    source.Walks opener events result ↔
      ∃ enough, ∀ bound, enough ≤ bound →
        let ran := processor.runWith (.opening opener) bound []
        ran.1.verdict = .ofResult result ∧ ran.1.state = events ∧
          (result = none → ran.2.inputs = ⟨(Input.ofSource source).readAll.2, []⟩ ∧
            ran.2.inputs.depth = 0 ∧ ran.2.inputs.unread = []) := by
  intro processor
  constructor
  · intro walks
    obtain ⟨enough, left, atEnd, runs⟩ := walks.run
    refine ⟨enough, fun bound more => ?_⟩
    intro ran
    have sameOutcome : ran.1 = ⟨.ofResult result, left, events⟩ := runs bound more
    have sameLeft : ran.2.inputs = left := congrArg Outcome.inputs (runs bound more)
    rw [sameOutcome, sameLeft]
    refine ⟨rfl, rfl, fun completed => ?_⟩
    have ended := Input.unread_of_next?_eq_none (Input.next?_readAll (.ofSource source))
    rw [atEnd completed, Inputs.unread, ended]
    exact ⟨rfl, rfl, rfl⟩
  · rintro ⟨enough, comesOut⟩
    have ends : (processor.runWith (.opening opener) enough []).1.verdict ≠ .exhausted := by
      rw [(comesOut enough (Nat.le_refl _)).1]
      exact Verdict.ofResult_ne_exhausted result
    obtain ⟨told, found, walk⟩ := Walk.foundWithin opener enough _ [] .outside [] [] ends
    rw [Input.endToken_finish] at walk
    have walks : source.Walks opener told found := walk
    -- The walk that was found comes out as the run does, so it is the one that was asked for.
    obtain ⟨more, left, _, runs⟩ := walks.run
    obtain ⟨sameVerdict, sameEvents, _⟩ := comesOut (max enough more) (Nat.le_max_left _ _)
    rw [show (processor.runWith (.opening opener) (max enough more) []).1 = _ from
      runs _ (Nat.le_max_right _ _)] at sameVerdict sameEvents
    exact sameEvents ▸ Verdict.ofResult_injective sameVerdict ▸ walks

/-- Two sources are opened inside of a body. The last one is walked first and closes the body, so
that the other one and the rest of the document are outside of it. -/
theorem run_iff_walks_closed_by_inclusion :
    let opener : Opener := fun _ _ => [⟨['c'], ['x']⟩, ⟨['e'], ['>', '>', '@', '<', '<']⟩]
    let body := Event.document [.opening .plain ['a'], .directive (.inclusion ['p'])]
    Source.Walks opener ⟨['d'], body ++ ['b']⟩
      [.opening .plain ['a'], .directive (.inclusion ['p']), .closing, .passage ['x'],
        .passage ['b']] none := by
  intro opener body
  refine (run_iff_walks opener ⟨['d'], body ++ ['b']⟩ _ none).mpr ⟨8, fun bound more => ?_⟩
  have ended : ((Inputs.ofSource ⟨['d'], body ++ ['b']⟩).run (.opening opener) 8 []).verdict ≠
      .exhausted := by decide
  intro ran
  have sameOutcome : ran.1 = _ := Run.go_of_le ended more
  have sameLeft : ran.2.inputs = _ := congrArg Outcome.inputs (Run.go_of_le ended more)
  rw [sameOutcome, sameLeft]
  decide +kernel

end Literate
