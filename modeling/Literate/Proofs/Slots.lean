/-
This file proves that callbacks are a sink like any other. A processor runs either with a
sink or with the callbacks that are registered, one slot for each kind of event. Slots can
be filled or left empty in every combination, and the slot for directives can open sources
in the middle of a run or fail. Yet nothing that is recorded has an influence on the run:
only the answers to directives have one. So callbacks that record some kinds of events go
in lockstep with a sink that records them all and answers directives in the same way, and
what they have recorded is what the sink has recorded, less the kinds whose slots are
empty.

The callbacks are taken out of the processor for a run and are back afterwards, also if
the run has failed. So the same is true of any number of runs in turn, each of which goes
on where the one before has stopped.
-/

import Literate.Proofs.Lockstep

namespace Literate

variable {σ : Type}

/-! ### Recording everything -/

/-- What is done at a directive, with a state of its own. -/
abbrev Answering (σ : Type) := σ → Directive → Inputs → Reply σ

/-- Puts an event down behind those recorded before. -/
def noted (state : List Event × σ) (event : Event) : List Event × σ :=
  (state.1 ++ [event], state.2)

/-- Answers a directive without a look at what is recorded, and without a change to it. -/
def Answering.beside (answering : Answering σ) (state : List Event × σ) (given : Directive)
    (inputs : Inputs) : Reply (List Event × σ) :=
  let reply := answering state.2 given inputs
  { toOpening := reply.toOpening, state := (state.1, reply.state) }

/-- A sink that records all events and answers directives in the given way, or by doing nothing. -/
def Sink.noting (answering : Option (Answering σ)) : Sink (List Event × σ) where
  event
    -- A directive is not told as an event, but given to be answered.
    | state, .directive _ => state
    | state, event => noted state event
  directive state given inputs :=
    match answering with
    | some answering => answering.beside (noted state (.directive given)) given inputs
    | none => { state := noted state (.directive given) }

/-! ### Slots -/

/-- Which slots are filled with functions that record, and what the slot for directives does if it
is filled. That one may record the directives as well. -/
structure Slots (σ : Type) where
  passage : Bool
  opening : Bool
  closing : Bool
  reference : Bool
  substitution : Bool
  notesDirectives : Bool
  directive : Option (Answering σ)

namespace Slots

/-- Whether an event is recorded. -/
def keeps (slots : Slots σ) : Event → Bool
  | .passage _ => slots.passage
  | .opening _ _ => slots.opening
  | .closing => slots.closing
  | .reference _ => slots.reference
  | .substitution _ => slots.substitution
  | .directive _ => slots.directive.isSome && slots.notesDirectives

/-- What the slots keep of a full record. -/
def kept (slots : Slots σ) (state : List Event × σ) : List Event × σ :=
  (state.1.filter slots.keeps, state.2)

/-- A slot that is filled or not. -/
def fill {α : Type} (filled : Bool) (call : α) : Option α := if filled then some call else none

/-- The callbacks in the slots. -/
def callbacks (slots : Slots σ) : Callbacks (List Event × σ) where
  passage := fill slots.passage fun state text => noted state (.passage text)
  opening := fill slots.opening fun state kind name => noted state (.opening kind name)
  closing := fill slots.closing fun state => noted state .closing
  reference := fill slots.reference fun state name => noted state (.reference name)
  substitution := fill slots.substitution fun state made => noted state (.substitution made)
  directive := slots.directive.map fun answering state given inputs =>
    answering.beside (if slots.notesDirectives then noted state (.directive given) else state)
      given inputs

theorem elim_fill {α β : Type} (filled : Bool) (call : α) (empty : β) (use : α → β) :
    (fill filled call).elim empty use = if filled then use call else empty := by
  cases filled <;> rfl

theorem kept_noted (slots : Slots σ) (state : List Event × σ) (event : Event) :
    slots.kept (noted state event) =
      if slots.keeps event then noted (slots.kept state) event else slots.kept state := by
  rw [kept, noted, List.filter_append]
  by_cases keeps : slots.keeps event = true
  · rw [if_pos keeps, List.filter_cons_of_pos keeps]
    rfl
  · rw [if_neg keeps, List.filter_cons_of_neg keeps]
    exact Prod.ext (List.append_nil _) rfl

/-- What is told to the callbacks and to the sink is recorded by both or left out. -/
theorem event_kept (slots : Slots σ) (state : List Event × σ) (event : Event) :
    slots.callbacks.event (slots.kept state) event =
      slots.kept ((Sink.noting slots.directive).event state event) := by
  have recorded := slots.kept_noted state event
  cases event with
  | directive given => rfl
  | passage | opening | closing | reference | substitution =>
    exact (elim_fill ..).trans recorded.symm

/-- The callbacks and the sink answer a directive alike. -/
theorem directive_kept (slots : Slots σ) (state : List Event × σ) (given : Directive)
    (inputs : Inputs) :
    let partly := slots.callbacks.toSink.directive (slots.kept state) given inputs
    let fully := (Sink.noting slots.directive).directive state given inputs
    partly.toOpening = fully.toOpening ∧ partly.state = slots.kept fully.state := by
  have recorded := slots.kept_noted state (.directive given)
  cases answered : slots.directive with
  | none =>
    have unanswered : slots.callbacks.directive = none := by rw [callbacks, answered]; rfl
    have unkept : slots.keeps (.directive given) = false := by rw [keeps, answered]; rfl
    have partly : slots.callbacks.toSink.directive (slots.kept state) given inputs =
        { state := slots.kept state } := by simp only [Callbacks.toSink, unanswered]
    rw [partly]
    exact ⟨rfl, (recorded.trans (if_neg (by simp [unkept]))).symm⟩
  | some answering =>
    have same : slots.callbacks.directive = some fun state given inputs =>
        answering.beside (if slots.notesDirectives then noted state (.directive given) else state)
          given inputs := by rw [callbacks, answered]; rfl
    have kept : (if slots.notesDirectives then noted (slots.kept state) (.directive given)
        else slots.kept state) = slots.kept (noted state (.directive given)) := by
      rw [recorded, keeps, answered, Option.isSome_some, Bool.true_and]
    have partly : slots.callbacks.toSink.directive (slots.kept state) given inputs =
        answering.beside (slots.kept (noted state (.directive given))) given inputs := by
      simp only [Callbacks.toSink, same, kept]
    rw [partly]
    exact ⟨rfl, rfl⟩

/-- The callbacks and the sink go in lockstep. -/
theorem callbacks_matches (slots : Slots σ) :
    slots.callbacks.toSink.Matches (.noting slots.directive)
      fun partly fully => partly = slots.kept fully where
  event event same := same ▸ slots.event_kept _ event
  opening given inputs same := same ▸ (slots.directive_kept _ given inputs).1
  directive given inputs same := same ▸ (slots.directive_kept _ given inputs).2

end Slots

/-! ### Runs in turn -/

namespace Processor

/-- Runs a processor several times, each time with a bound of its own, and lists the verdicts. -/
def inTurn (once : Processor σ → Nat → σ → Outcome σ × Processor σ) :
    List Nat → Processor σ → σ → List Verdict × Processor σ × σ
  | [], processor, state => ([], processor, state)
  | bound :: bounds, processor, state =>
    let ran := once processor bound state
    let later := inTurn once bounds ran.2 ran.1.state
    (ran.1.verdict :: later.1, later.2)

/-- One run with the callbacks and one with the sink do the same to the same inputs, and the
callbacks are registered afterwards as before. -/
theorem run_callbacks {slots : Slots σ} {partly fully : Processor (List Event × σ)}
    (sameInputs : partly.inputs = fully.inputs) (registered : partly.callbacks = slots.callbacks)
    (bound : Nat) (state : List Event × σ) :
    let recorded := partly.run bound (slots.kept state)
    let everything := fully.runWith (.noting slots.directive) bound state
    recorded.1.verdict = everything.1.verdict ∧
      recorded.1.state = slots.kept everything.1.state ∧
      recorded.2.inputs = everything.2.inputs ∧ recorded.2.callbacks = slots.callbacks := by
  obtain ⟨sameVerdict, sameLeft, kept⟩ :=
    Run.go_matches slots.callbacks_matches bound (rfl : slots.kept state = slots.kept state)
      fully.inputs .outside
  have ran : (partly.run bound (slots.kept state)).1 =
      fully.inputs.run slots.callbacks.toSink bound (slots.kept state) := by
    rw [← sameInputs, ← registered]
    rfl
  exact ⟨ran ▸ sameVerdict, ran ▸ kept, (congrArg Outcome.inputs ran).trans sameLeft, registered⟩

theorem inTurn_kept {slots : Slots σ} {partly fully : Processor (List Event × σ)}
    (sameInputs : partly.inputs = fully.inputs) (registered : partly.callbacks = slots.callbacks)
    (bounds : List Nat) (state : List Event × σ) :
    let recorded := inTurn run bounds partly (slots.kept state)
    let everything :=
      inTurn (fun processor => processor.runWith (.noting slots.directive)) bounds fully state
    recorded.1 = everything.1 ∧ recorded.2.2 = slots.kept everything.2.2 ∧
      recorded.2.1.inputs = everything.2.1.inputs ∧
      recorded.2.1.callbacks = slots.callbacks := by
  induction bounds generalizing partly fully state with
  | nil => exact ⟨rfl, rfl, sameInputs, registered⟩
  | cons bound bounds inductionHypothesis =>
    obtain ⟨sameVerdict, kept, sameLeft, stillRegistered⟩ :=
      run_callbacks sameInputs registered bound state
    obtain ⟨sameVerdicts, keptLater, sameLater, registeredLater⟩ :=
      inductionHypothesis sameLeft stillRegistered
        (fully.runWith (.noting slots.directive) bound state).1.state
    rw [← kept] at sameVerdicts keptLater sameLater registeredLater
    exact ⟨congrArg₂ List.cons sameVerdict sameVerdicts, keptLater, sameLater, registeredLater⟩

/-- Callbacks are the same contract as a sink. Whatever the inputs are, whichever slots are filled
with functions that record, and whatever is done at directives, if anything: runs in turn with the
callbacks come to the same verdicts as runs with a sink that records everything and does the same
at directives. They leave the same inputs and the slot for directives in the same state, and have
recorded the same events in the same order, less those whose slots are empty. After each of
them, completed, failed or cut short, the callbacks are registered as before. -/
theorem inTurn_callbacks (slots : Slots σ) (inputs : Inputs) (bounds : List Nat) (state : σ) :
    let recorded := inTurn run bounds (register { inputs } slots.callbacks) ([], state)
    let everything := inTurn (fun processor => processor.runWith (.noting slots.directive)) bounds
      { inputs } ([], state)
    recorded.1 = everything.1 ∧ recorded.2.2.1 = everything.2.2.1.filter slots.keeps ∧
      recorded.2.2.2 = everything.2.2.2 ∧ recorded.2.1.inputs = everything.2.1.inputs ∧
      recorded.2.1.callbacks = slots.callbacks := by
  intro recorded everything
  have registered : (register { inputs } slots.callbacks).callbacks = slots.callbacks := rfl
  have sameInputs : (register { inputs } slots.callbacks).inputs =
      ({ inputs } : Processor (List Event × σ)).inputs := rfl
  obtain ⟨sameVerdicts, kept, sameLeft, stillRegistered⟩ :=
    inTurn_kept sameInputs registered bounds ([], state)
  have record : recorded.2.2 = slots.kept everything.2.2 := kept
  rw [record]
  exact ⟨sameVerdicts, rfl, rfl, sameLeft, stillRegistered⟩

end Processor

end Literate
