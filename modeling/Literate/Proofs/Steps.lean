/-
This file says once what a step of a run can do, for every sink, and derives from it
when a run without a bound has an outcome and what all inputs keep along a run. A step tells the sink an event, lets it answer a
directive, resumes a suspended input, or ends the run; each of these is stated with
the token that was read. A property that holds of every source at its start, and
that reading a token keeps, holds of the current and the suspended inputs in every
state that openings and runs lead to, completed, failed or cut short.
-/

import Literate.Proofs.Meaning
import Literate.Run

namespace Literate

namespace Run

variable {σ : Type}

/-! ### What a step can do -/

/-- What a step of a run can do. -/
inductive Taken (sink : Sink σ) (run : Run σ) : Progress σ → Prop where
  /-- The token is the spelling of an event, which the sink is told. -/
  | told {event : Event} {after : Scope} : (∀ given, event ≠ .directive given) →
      run.inputs.read.1.text ≠ [] → event.spelling = run.inputs.read.1.text →
      event.Leads run.scope after →
      Taken sink run (.running ⟨run.inputs.read.2, after, sink.event run.state event⟩)
  /-- The token is the spelling of a directive, and the sink opens the sources it wants. -/
  | answered {given : Directive} : run.inputs.read.1.text ≠ [] →
      (Event.directive given).spelling = run.inputs.read.1.text →
      (sink.directive run.state given run.inputs.read.2).failure = none →
      Taken sink run (.running
        ⟨run.inputs.read.2.pushAll (sink.directive run.state given run.inputs.read.2).opened,
          run.scope, (sink.directive run.state given run.inputs.read.2).state⟩)
  /-- The token is the spelling of a directive, and the sink fails. -/
  | rejected {given : Directive} {error : IncludeError} :
      (Event.directive given).spelling = run.inputs.read.1.text →
      (sink.directive run.state given run.inputs.read.2).failure = some error →
      Taken sink run (.ended
        ⟨.failed ⟨run.inputs.read.1.position, .notIncluded error⟩,
          run.inputs.read.2.pushAll (sink.directive run.state given run.inputs.read.2).opened,
          (sink.directive run.state given run.inputs.read.2).state⟩)
  /-- The current input has ended outside of a body, and another one is resumed. -/
  | resumed {resumed : Inputs} : run.scope = .outside → run.inputs.read.1.text = [] →
      run.inputs.read.2.resume? = some resumed →
      Taken sink run (.running ⟨resumed, run.scope, run.state⟩)
  /-- The last input has ended outside of a body. -/
  | completed : run.scope = .outside → run.inputs.read.1.text = [] →
      run.inputs.read.2.resume? = none →
      Taken sink run (.ended ⟨.completed, run.inputs.read.2, run.state⟩)
  /-- The token may not stand where it does. -/
  | refused {complaint : Complaint} : complaint.About run.inputs.read.1.text →
      Taken sink run (.ended
        ⟨.failed ⟨run.inputs.read.1.position, complaint⟩, run.inputs.read.2, run.state⟩)

theorem taken_answer {sink : Sink σ} {run : Run σ} {given : Directive}
    (nonempty : run.inputs.read.1.text ≠ [])
    (spelled : (Event.directive given).spelling = run.inputs.read.1.text) :
    Taken sink run
      (answer sink run.inputs.read.2 run.scope run.state run.inputs.read.1 given) := by
  unfold answer
  dsimp only
  split
  · exact .answered nonempty spelled ‹_›
  · exact .rejected spelled ‹_›

theorem taken_resume {sink : Sink σ} {run : Run σ} (outside : run.scope = .outside)
    (ended : run.inputs.read.1.text = []) :
    Taken sink run (resume run.inputs.read.2 run.scope run.state) := by
  unfold resume
  split
  · exact .resumed outside ended ‹_›
  · exact .completed outside ended ‹_›

theorem taken_step (sink : Sink σ) (run : Run σ) : Taken sink run (run.step sink) := by
  have fits : (run.scope.meaning run.inputs.read.1.kind run.inputs.read.1.text).Fits run.scope
      run.inputs.read.1.text := run.inputs.current.legible_read.fits_meaning run.scope
  unfold step
  dsimp only
  split
  · rename_i same
    rw [same] at fits
    obtain ⟨outside, ended⟩ := fits
    exact taken_resume outside ended
  · rename_i complaint same
    rw [same] at fits
    obtain _ | _ | about := fits
    exact .refused about
  · rename_i given after same
    rw [same] at fits
    obtain _ | ⟨nonempty, spelled, leads⟩ := fits
    rw [leads.scope_of_directive]
    exact taken_answer nonempty spelled
  · rename_i event after other same
    rw [same] at fits
    obtain _ | ⟨nonempty, spelled, leads⟩ := fits
    exact .told other nonempty spelled leads

/-- A run that has ended is not changed by further steps. -/
theorem go_of_le {sink : Sink σ} {run : Run σ} {bound more : Nat}
    (ended : (run.go sink bound).verdict ≠ .exhausted) (enough : bound ≤ more) :
    run.go sink more = run.go sink bound := by
  induction bound generalizing run more with
  | zero => exact absurd rfl ended
  | succ bound inductionHypothesis =>
    obtain ⟨fewer, rfl⟩ := Nat.exists_eq_add_of_lt (Nat.lt_of_succ_le enough)
    rw [go] at ended
    rw [go, go]
    cases made : run.step sink with
    | running next =>
      rw [made] at ended
      exact inductionHypothesis ended (Nat.le_add_right bound fewer)
    | ended outcome => rfl

/-! ### Runs without a bound -/

end Run

/-! ### What all inputs keep -/

namespace Inputs

/-- A property holds of the current input and of all suspended ones. -/
def All (property : Input → Prop) (inputs : Inputs) : Prop :=
  property inputs.current ∧ ∀ input ∈ inputs.suspended, property input

section

variable {property : Input → Prop}

theorem push_of_all (fresh : ∀ source, property (.ofSource source)) {inputs : Inputs}
    (all : inputs.All property) (source : Source) : (inputs.push source).All property :=
  ⟨fresh source, List.forall_mem_cons.mpr all⟩

theorem pushAll_of_all (fresh : ∀ source, property (.ofSource source)) {inputs : Inputs}
    (all : inputs.All property) (sources : List Source) :
    (inputs.pushAll sources).All property := by
  induction sources generalizing inputs with
  | nil => exact all
  | cons source sources inductionHypothesis =>
    exact inductionHypothesis (push_of_all fresh all source)

theorem resume_of_all {inputs resumed : Inputs} (all : inputs.All property)
    (found : inputs.resume? = some resumed) : resumed.All property := by
  unfold resume? at found
  split at found
  · cases found
  · rename_i input suspended same
    cases found
    obtain ⟨_, rest⟩ := all
    rw [same] at rest
    exact List.forall_mem_cons.mp rest

theorem read_of_all (step : ∀ input : Input, property input → property input.read.2)
    {inputs : Inputs} (all : inputs.All property) : inputs.read.2.All property :=
  ⟨step _ all.1, all.2⟩

end

end Inputs

/-- The inputs of a run that goes on, or those that it leaves behind. -/
def Progress.inputs {σ : Type} : Progress σ → Inputs
  | .running run => run.inputs
  | .ended outcome => outcome.inputs

namespace Run

variable {σ : Type} {property : Input → Prop}

theorem step_of_all (fresh : ∀ source, property (.ofSource source))
    (step : ∀ input : Input, property input → property input.read.2) (sink : Sink σ)
    {run : Run σ} (all : run.inputs.All property) : (run.step sink).inputs.All property := by
  have read := Inputs.read_of_all step all
  generalize made : run.step sink = progress
  have taken := taken_step sink run
  rw [made] at taken
  cases taken with
  | told => exact read
  | answered => exact Inputs.pushAll_of_all fresh read _
  | rejected => exact Inputs.pushAll_of_all fresh read _
  | resumed _ _ found => exact Inputs.resume_of_all read found
  | completed => exact read
  | refused => exact read

/-- What holds as long as a run goes on, kept by every step, gives what holds of its outcome. -/
theorem go_of_invariant {sink : Sink σ} (during : Run σ → Prop) (atEnd : Outcome σ → Prop)
    (goesOn : ∀ {run next : Run σ}, during run → run.step sink = .running next → during next)
    (ends : ∀ {run : Run σ} {outcome : Outcome σ}, during run → run.step sink = .ended outcome →
      atEnd outcome)
    (cut : ∀ {run : Run σ}, during run → atEnd ⟨.exhausted, run.inputs, run.state⟩) (bound : Nat)
    {run : Run σ} (start : during run) : atEnd (run.go sink bound) := by
  induction bound generalizing run with
  | zero => exact cut start
  | succ bound inductionHypothesis =>
    rw [go]
    split
    · exact inductionHypothesis (goesOn start ‹_›)
    · exact ends start ‹_›

/-- What every step keeps of the inputs is kept by a whole run. -/
theorem go_of_step (holds : Inputs → Prop) {sink : Sink σ}
    (kept : ∀ run : Run σ, holds run.inputs → holds (run.step sink).inputs) (bound : Nat)
    {run : Run σ} (start : holds run.inputs) : holds (run.go sink bound).inputs := by
  refine go_of_invariant (fun run => holds run.inputs) (fun outcome => holds outcome.inputs)
    ?_ ?_ id bound start
  · intro run next before made
    have after := kept run before
    rwa [made] at after
  · intro run outcome before made
    have after := kept run before
    rwa [made] at after

/-- What every source has at its start and every token keeps, all inputs have after a run. -/
theorem go_of_all (fresh : ∀ source, property (.ofSource source))
    (step : ∀ input : Input, property input → property input.read.2) (sink : Sink σ) (bound : Nat)
    {run : Run σ} (all : run.inputs.All property) : (run.go sink bound).inputs.All property :=
  go_of_step (·.All property) (fun _ => step_of_all fresh step sink) bound all

end Run

namespace Inputs

/-! ### Stacks that can come up -/

/-- The stacks of inputs that openings and runs lead to from a single source. A run counts
whatever its sink and its outcome; one that is cut short by its bound counts as well. -/
inductive Reachable : Inputs → Prop where
  | fresh (source : Source) : Reachable (.ofSource source)
  | push {inputs : Inputs} (source : Source) : Reachable inputs → Reachable (inputs.push source)
  | run {inputs : Inputs} {σ : Type} (sink : Sink σ) (bound : Nat) (state : σ) :
      Reachable inputs → Reachable (inputs.run sink bound state).inputs

theorem Reachable.underway {inputs : Inputs} (reachable : inputs.Reachable) :
    inputs.All Input.Underway := by
  induction reachable with
  | fresh source =>
    exact ⟨Input.underway_ofSource source, fun _ member => absurd member List.not_mem_nil⟩
  | push source _ inductionHypothesis =>
    exact push_of_all Input.underway_ofSource inductionHypothesis source
  | run sink bound state _ inductionHypothesis =>
    exact Run.go_of_all Input.underway_ofSource (fun _ underway => underway.read) sink bound
      inductionHypothesis

end Inputs

end Literate
