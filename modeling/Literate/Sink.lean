/-
This file says who receives the events of a run. A sink keeps a state of its own
and is told every event. Directives are special: the sink sees the stack of inputs
and may answer by opening further sources, by failing, or both. A sink given by
callbacks has one optional slot for each kind of event, and an empty slot does
nothing.
-/

import Literate.Event
import Literate.Inclusion.Error
import Literate.Inputs

namespace Literate

/-- What a directive brings about: the sources to open, in order, and a failure if there was
one. Sources opened before a failure stay open. -/
structure Opening where
  opened : List Source := []
  failure : Option IncludeError := none
  deriving DecidableEq

/-- The answer of a sink to a directive, and its state afterwards. -/
structure Reply (σ : Type) extends Opening where
  state : σ

/-- A receiver of events with a state. -/
structure Sink (σ : Type) where
  /-- Takes an event that is no directive. -/
  event : σ → Event → σ
  /-- Answers a directive. -/
  directive : σ → Directive → Inputs → Reply σ

namespace Sink

/-- A sink that only observes: directives are events like any other to it. -/
def observing {σ : Type} (observe : σ → Event → σ) : Sink σ where
  event := observe
  directive state given _ := { state := observe state (.directive given) }

/-- A sink that keeps every event in order. -/
def recording : Sink (List Event) := observing fun events event => events ++ [event]

end Sink

/-- One optional function for each kind of event. -/
structure Callbacks (σ : Type) where
  passage : Option (σ → Text → σ) := none
  opening : Option (σ → MacroKind → Text → σ) := none
  closing : Option (σ → σ) := none
  reference : Option (σ → Text → σ) := none
  substitution : Option (σ → Substitution → σ) := none
  directive : Option (σ → Directive → Inputs → Reply σ) := none

namespace Callbacks

/-- What the filled slots make of an event. -/
def event {σ : Type} (callbacks : Callbacks σ) (state : σ) : Event → σ
  | .passage text => callbacks.passage.elim state fun call => call state text
  | .opening kind name => callbacks.opening.elim state fun call => call state kind name
  | .closing => callbacks.closing.elim state fun call => call state
  | .reference name => callbacks.reference.elim state fun call => call state name
  | .substitution made => callbacks.substitution.elim state fun call => call state made
  | .directive _ => state

/-- Callbacks as a sink. Without a directive slot, directives are ignored. -/
def toSink {σ : Type} (callbacks : Callbacks σ) : Sink σ where
  event := callbacks.event
  directive state given inputs :=
    match callbacks.directive with
    | some call => call state given inputs
    | none => { state }

end Callbacks

end Literate
