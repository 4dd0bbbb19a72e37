/-
This file proves that the events of a run lose nothing. A run whose sink only
observes takes the unread characters of the whole stack, those put back included,
and turns them into events without opening anything. Every step moves the spelling
of one event from the unread characters to the events, or resumes an input and
moves nothing. So a completed run has spelled out everything that was unread, and a
failed one everything in front of the token that is complained about.

Each step also uses up a character or an input, so that the budget of a stack
bounds the number of its steps, and a run with that bound comes to its end.
-/

import Literate.Proofs.Steps

namespace Literate

/-! ### The unread characters of a stack -/

theorem Input.unread_of_read_text_eq_nil {input : Input} (empty : input.read.1.text = []) :
    input.unread = [] := by
  by_cases ended : input.unread = []
  · exact ended
  · exact absurd empty ((firstLexeme_read ended).ne_nil ended)

namespace Inputs

theorem unread_read {inputs : Inputs} (underway : inputs.All Input.Underway) :
    inputs.unread = inputs.read.1.text ++ inputs.read.2.unread := by
  show inputs.current.unread ++ inputs.suspended.flatMap Input.unread =
    inputs.current.read.1.text ++
      (inputs.current.read.2.unread ++ inputs.suspended.flatMap Input.unread)
  rw [underway.1.unread_read, List.append_assoc]

theorem read_of_text_eq_nil {inputs : Inputs} (empty : inputs.read.1.text = []) :
    inputs.read.2 = inputs ∧ inputs.current.unread = [] := by
  have ended := Input.unread_of_read_text_eq_nil empty
  refine ⟨?_, ended⟩
  show { inputs with current := inputs.current.read.2 } = inputs
  rw [Input.read_of_unread_eq_nil ended]

theorem unread_resume {inputs resumed : Inputs} (ended : inputs.current.unread = [])
    (found : inputs.resume? = some resumed) :
    resumed.unread = inputs.unread ∧ resumed.depth + 1 = inputs.depth := by
  unfold resume? at found
  split at found
  · cases found
  · rename_i input suspended same
    cases found
    refine ⟨?_, ?_⟩
    · rw [unread, unread, ended, same, List.flatMap_cons, List.nil_append]
    · rw [depth, depth, same, List.length_cons]

theorem unread_of_resume?_eq_none {inputs : Inputs} (ended : inputs.current.unread = [])
    (last : inputs.resume? = none) : inputs.unread = [] ∧ inputs.depth = 0 := by
  unfold resume? at last
  split at last
  · rename_i none
    rw [unread, depth, ended, none]
    exact ⟨rfl, rfl⟩
  · cases last

theorem budget_read_lt {inputs : Inputs} (underway : inputs.All Input.Underway)
    (nonempty : inputs.read.1.text ≠ []) : inputs.read.2.budget < inputs.budget := by
  have shorter := congrArg List.length (unread_read underway)
  have sameDepth : inputs.read.2.depth = inputs.depth := rfl
  have some := List.length_pos_iff.mpr nonempty
  rw [List.length_append] at shorter
  rw [budget, budget, sameDepth]
  omega

theorem budget_resume_lt {inputs resumed : Inputs} (ended : inputs.current.unread = [])
    (found : inputs.resume? = some resumed) : resumed.budget < inputs.budget := by
  obtain ⟨sameUnread, lessDepth⟩ := unread_resume ended found
  rw [budget, budget, sameUnread]
  omega

end Inputs

namespace Run

variable {σ : Type} {observe : σ → Event → σ}

/-! ### Steps of an observed run -/

/-- A step that goes on moves some events from the unread characters to the sink, and uses up a
part of the budget. -/
theorem running_observing {run next : Run σ} (underway : run.inputs.All Input.Underway)
    (made : run.step (.observing observe) = .running next) :
    ∃ events, next.state = events.foldl observe run.state ∧
      run.inputs.unread = Event.document events ++ next.inputs.unread ∧
      next.inputs.budget < run.inputs.budget := by
  have taken := taken_step (.observing observe) run
  rw [made] at taken
  cases taken with
  | @told event _ _ nonempty spelled _ =>
    refine ⟨[event], rfl, ?_, Inputs.budget_read_lt underway nonempty⟩
    rw [Event.document, List.flatMap_singleton, spelled]
    exact Inputs.unread_read underway
  | @answered given nonempty spelled _ =>
    refine ⟨[.directive given], rfl, ?_, Inputs.budget_read_lt underway nonempty⟩
    rw [Event.document, List.flatMap_singleton, spelled]
    exact Inputs.unread_read underway
  | resumed _ empty found =>
    obtain ⟨same, ended⟩ := Inputs.read_of_text_eq_nil empty
    rw [same] at found
    exact ⟨[], rfl, (Inputs.unread_resume ended found).1.symm, Inputs.budget_resume_lt ended found⟩

/-- How a run ends that tells the given events. A completed one has spelled out everything that
was unread. A failed one has stopped at a token that it may not have, and the events and that
token with what is still unread are everything that was unread. -/
inductive Ending (run : Run σ) (events : List Event) : Outcome σ → Prop where
  | completed {inputs : Inputs} {state : σ} : Event.document events = run.inputs.unread →
      inputs.depth = 0 → inputs.unread = [] → Ending run events ⟨.completed, inputs, state⟩
  | failed {stopped : Inputs} {complaint : Complaint} {state : σ} :
      complaint.About stopped.read.1.text →
      Event.document events ++ stopped.read.1.text ++ stopped.read.2.unread = run.inputs.unread →
      Ending run events
        ⟨.failed ⟨stopped.read.1.position, complaint⟩, stopped.read.2, state⟩

theorem ended_observing {run : Run σ} {outcome : Outcome σ}
    (underway : run.inputs.All Input.Underway)
    (made : run.step (.observing observe) = .ended outcome) :
    outcome.state = run.state ∧ Ending run [] outcome := by
  have taken := taken_step (.observing observe) run
  rw [made] at taken
  cases taken with
  | rejected _ failure => cases failure
  | completed _ empty last =>
    obtain ⟨same, ended⟩ := Inputs.read_of_text_eq_nil empty
    rw [same] at last ⊢
    obtain ⟨nothing, bottom⟩ := Inputs.unread_of_resume?_eq_none ended last
    exact ⟨rfl, .completed nothing.symm bottom nothing⟩
  | refused about => exact ⟨rfl, .failed about (Inputs.unread_read underway).symm⟩

theorem Ending.after {run next : Run σ} {first second : List Event} {outcome : Outcome σ}
    (ending : Ending next second outcome)
    (moved : run.inputs.unread = Event.document first ++ next.inputs.unread) :
    Ending run (first ++ second) outcome := by
  have joined : Event.document (first ++ second) =
      Event.document first ++ Event.document second := List.flatMap_append
  cases ending with
  | completed everything bottom nothing =>
    refine .completed ?_ bottom nothing
    rw [joined, everything, moved]
  | failed about everything =>
    refine .failed about ?_
    rw [joined, moved, ← everything]
    simp only [List.append_assoc]

/-- A run with enough steps comes to its end, and its events lose nothing. -/
theorem go_observing (observe : σ → Event → σ) (bound : Nat) (run : Run σ)
    (underway : run.inputs.All Input.Underway) (enough : run.inputs.budget ≤ bound) :
    ∃ events, (run.go (.observing observe) bound).state = events.foldl observe run.state ∧
      Ending run events (run.go (.observing observe) bound) := by
  induction bound generalizing run with
  | zero => exact absurd enough (Nat.not_succ_le_zero _)
  | succ bound inductionHypothesis =>
    rw [go]
    cases made : run.step (.observing observe) with
    | running next =>
      obtain ⟨first, sameState, moved, lower⟩ := running_observing underway made
      have kept : next.inputs.All Input.Underway := by
        have all := step_of_all Input.underway_ofSource (fun _ underway => underway.read)
          (.observing observe) underway
        rwa [made] at all
      obtain ⟨second, finalState, ending⟩ := inductionHypothesis next kept (by omega)
      refine ⟨first ++ second, ?_, ending.after moved⟩
      rw [List.foldl_append, ← sameState]
      exact finalState
    | ended outcome =>
      obtain ⟨sameState, ending⟩ := ended_observing underway made
      exact ⟨[], sameState, ending⟩

theorem foldl_recorded (events : List Event) :
    events.foldl (fun events event => events ++ [event]) [] = events := by
  rw [List.foldl_append_eq_append, ← List.flatMap_def, List.flatMap_singleton', List.nil_append]

theorem go_recording {inputs : Inputs} (underway : inputs.All Input.Underway) {bound : Nat}
    (enough : inputs.budget ≤ bound) :
    Ending ⟨inputs, .outside, []⟩ (inputs.run .recording bound []).state
      (inputs.run .recording bound []) := by
  obtain ⟨events, sameState, ending⟩ :=
    go_observing (fun events event => events ++ [event]) bound ⟨inputs, .outside, []⟩ underway
      enough
  rw [foldl_recorded] at sameState
  exact sameState ▸ ending

end Run

/-! ### Nothing is lost -/

/-- The events of a run are lossless. Whatever was opened and run before, a run that records its
events and opens nothing comes to its end, and nothing unread is lost. If it completes, the
spellings of the events are everything that was unread, and no input is left. If it fails, they
are what was unread in front of the token at the place of the error, which is the token that the
error complains about, and everything behind that token is still unread. -/
theorem unread_eq_document (processor : Processor (List Event))
    (reachable : processor.inputs.Reachable) (bound : Nat)
    (enough : processor.inputs.budget ≤ bound) :
    let outcome := (processor.runWith .recording bound []).1
    let left := (processor.runWith .recording bound []).2.inputs
    (outcome.verdict = .completed ∧ Event.document outcome.state = processor.inputs.unread ∧
        left.depth = 0 ∧ left.unread = []) ∨
      ∃ (stopped : Inputs) (complaint : Complaint),
        outcome.verdict = .failed ⟨stopped.read.1.position, complaint⟩ ∧
        complaint.About stopped.read.1.text ∧ left = stopped.read.2 ∧
        Event.document outcome.state ++ stopped.read.1.text ++ left.unread =
          processor.inputs.unread := by
  intro outcome left
  have ending := Run.go_recording reachable.underway enough
  generalize ended : processor.inputs.run .recording bound [] = finish at ending
  have sameOutcome : outcome = finish := ended
  have sameLeft : left = finish.inputs := congrArg Outcome.inputs ended
  rw [sameOutcome, sameLeft]
  cases ending with
  | completed everything bottom nothing => exact .inl ⟨rfl, everything, bottom, nothing⟩
  | failed about everything => exact .inr ⟨_, _, rfl, about, rfl, everything⟩

/-- A run that failed behind a reference has put a character back. After another source was
opened, the next run spells out that source and then the character. -/
theorem unread_eq_document_after_failure :
    let first := Inputs.ofSource ⟨['o'], ['<', '<', 'a', '>', '>', 'x']⟩
    let left := (first.run .recording 7 []).inputs
    let processor : Processor (List Event) :=
      { inputs := left.push ⟨['i'], ['%', '[', 'k', ']', '%']⟩ }
    left.current.pending = ['x'] ∧
      Event.document (processor.runWith .recording 8 []).1.state =
        ['%', '[', 'k', ']', '%', 'x'] := by
  intro first left processor
  have reachable : processor.inputs.Reachable :=
    .push _ (.run .recording 7 [] (.fresh _))
  refine ⟨by decide, ?_⟩
  rcases unread_eq_document processor reachable 8 (by decide) with
    ⟨_, everything, _⟩ | ⟨_, _, failed, _⟩
  · exact everything
  · have completed : (processor.runWith .recording 8 []).1.verdict = .completed := by decide
    rw [completed] at failed
    cases failed

end Literate
