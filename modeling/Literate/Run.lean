/-
This file runs a stack of inputs against a sink. A run goes token by token: what a
token means is told to the sink, the answer to a directive may open further
inputs, an input that has ended gives way to the one suspended before it, and the
first token that is refused ends the run. What has been read stays read, so that a
later run goes on from there, outside of any macro.

A sink can open inputs without end, so a run takes a bound on its steps, and
running out of it is told apart from every other outcome. A run without a bound goes on
until it ends, and has no outcome if it never does.
-/

import Literate.Scope
import Literate.Sink

namespace Literate

/-- A run under way: the inputs, the scope, and the state of the sink. -/
structure Run (σ : Type) where
  inputs : Inputs
  scope : Scope
  state : σ

/-- How a run came to its end. -/
inductive Verdict where
  /-- All inputs were read to their ends. -/
  | completed
  /-- A token was refused, or a directive failed. -/
  | failed (error : RunError)
  /-- The bound on the number of steps was reached first, or the run never ends. -/
  | exhausted
  deriving DecidableEq

/-- What a run leaves behind. -/
structure Outcome (σ : Type) where
  verdict : Verdict
  inputs : Inputs
  state : σ

/-- A run goes on, or it has ended. -/
inductive Progress (σ : Type) where
  | running (run : Run σ)
  | ended (outcome : Outcome σ)

namespace Run

variable {σ : Type}

/-- A run ends with an error at a token. -/
def fail (inputs : Inputs) (state : σ) (token : Token) (complaint : Complaint) : Progress σ :=
  .ended ⟨.failed ⟨token.position, complaint⟩, inputs, state⟩

/-- Lets the sink answer a directive. The sources it opens are opened even if it fails. -/
def answer (sink : Sink σ) (inputs : Inputs) (scope : Scope) (state : σ) (token : Token)
    (given : Directive) : Progress σ :=
  let reply := sink.directive state given inputs
  match reply.failure with
  | none => .running ⟨inputs.pushAll reply.opened, scope, reply.state⟩
  | some error => fail (inputs.pushAll reply.opened) reply.state token (.notIncluded error)

/-- An input has ended: the one suspended last goes on, or the run is complete. -/
def resume (inputs : Inputs) (scope : Scope) (state : σ) : Progress σ :=
  match inputs.resume? with
  | some resumed => .running ⟨resumed, scope, state⟩
  | none => .ended ⟨.completed, inputs, state⟩

/-- One step of a run: reads a token and does what it means. -/
def step (sink : Sink σ) (run : Run σ) : Progress σ :=
  let token := run.inputs.read.1
  let inputs := run.inputs.read.2
  match run.scope.meaning token.kind token.text with
  | .ended => resume inputs run.scope run.state
  | .refused complaint => fail inputs run.state token complaint
  | .event (.directive given) after => answer sink inputs after run.state token given
  | .event event after => .running ⟨inputs, after, sink.event run.state event⟩

/-- Goes on for at most so many steps. -/
def go (sink : Sink σ) : Nat → Run σ → Outcome σ
  | 0, run => ⟨.exhausted, run.inputs, run.state⟩
  | bound + 1, run =>
    match run.step sink with
    | .running next => next.go sink bound
    | .ended outcome => outcome

/-- Goes on until the run ends. There is no outcome if it never does. -/
def finish? (sink : Sink σ) (run : Run σ) : Option (Outcome σ) :=
  match run.step sink with
  | .running next => next |>.finish? sink
  | .ended outcome => some outcome
  partial_fixpoint

end Run

namespace Inputs

variable {σ : Type}

/-- Runs a stack of inputs against a sink for at most so many steps, starting outside of any
macro. -/
def run (inputs : Inputs) (sink : Sink σ) (bound : Nat) (state : σ) : Outcome σ :=
  Run.go sink bound ⟨inputs, .outside, state⟩

/-- Runs a stack of inputs against a sink that only observes. Such a run ends by itself within
the budget of the inputs. -/
def observe (inputs : Inputs) (observer : σ → Event → σ) (state : σ) : Outcome σ :=
  inputs.run (.observing observer) inputs.budget state

end Inputs

/-! ### Processors -/

/-- A stack of inputs with the callbacks that are registered for its runs. -/
structure Processor (σ : Type) where
  inputs : Inputs
  callbacks : Callbacks σ := {}

namespace Processor

variable {σ : Type}

/-- Registers callbacks in place of the former ones. -/
def register (processor : Processor σ) (callbacks : Callbacks σ) : Processor σ :=
  { processor with callbacks }

/-- Suspends the current input and goes on with a source. -/
def push (processor : Processor σ) (source : Source) : Processor σ :=
  { processor with inputs := processor.inputs.push source }

/-- Runs with a sink for at most so many steps. The callbacks stay registered. -/
def runWith (processor : Processor σ) (sink : Sink σ) (bound : Nat) (state : σ) :
    Outcome σ × Processor σ :=
  let outcome := processor.inputs.run sink bound state
  (outcome, { processor with inputs := outcome.inputs })

/-- Runs with the registered callbacks for at most so many steps. They are taken out of the
processor for the time of the run, and registered again however it ends. -/
def run (processor : Processor σ) (bound : Nat) (state : σ) : Outcome σ × Processor σ :=
  let ran := (processor.register {}).runWith processor.callbacks.toSink bound state
  (ran.1, ran.2.register processor.callbacks)

end Processor

end Literate
