/-
This file proves that a run with inclusions need not end. A file without a canonical form
is never compared with what is open, so nothing keeps it from being opened while it is
being read. If it begins with the directive that opens it, then its first token opens it
again, whatever is on the stack: every step suspends one more input, and no number of
steps is enough.

A file comes to be like this by what is above the working directory and has nothing to do
with the files themselves. One sealed directory there is enough.
-/

import Literate.Proofs.Ending
import Literate.Proofs.Lockstep

namespace Literate

namespace Resolver

variable {resolver : Resolver} {tree : FileTree} {path : Text} {again : Source}
  {σ : Type} {inner : Sink σ}

/-- The only file that is found under a path has no canonical form, and it begins with the
directive that includes this path. -/
structure Loops (resolver : Resolver) (tree : FileTree) (path : Text) (again : Source) : Prop where
  writable : (Event.directive (.inclusion path)).Writable
  found : resolver.resolve tree path = .ok [again.name]
  untraced : tree.canonical? again.name = none
  readable : tree.readText again.name = .ok again.text
  begins : (Event.directive (.inclusion path)).spelling <+: again.text

/-- The file is opened whatever is open already. -/
theorem Loops.handle (loops : resolver.Loops tree path again) (inputs : Inputs) :
    resolver.handle tree (.inclusion path) inputs = { opened := [again] } := by
  have passes : isActive tree inputs.activeNames again.name = false := by
    rw [isActive, loops.untraced]
  have nothingActive : [again.name].find? (isActive tree inputs.activeNames) = none := by
    rw [List.find?_singleton, passes]
    rfl
  simp only [Resolver.handle, loops.found, nothingActive, openAll, loops.readable]

theorem Loops.directive (loops : resolver.Loops tree path again) (quiet : inner.Quiet) (state : σ)
    (inputs : Inputs) :
    ((resolver.including tree inner).directive state (.inclusion path) inputs).toOpening =
      { opened := [again] } := by
  simp only [including, loops.handle]
  rw [quiet]
  rfl

/-! ### One step and all steps -/

/-- With the directive in front of it, a run opens the file and has the directive in front of it
once more. -/
theorem Loops.step (loops : resolver.Loops tree path again) (quiet : inner.Quiet) {run : Run σ}
    (underway : run.inputs.current.Underway)
    (begins : (Event.directive (.inclusion path)).spelling <+: run.inputs.current.unread) :
    ∃ state, run.step (resolver.including tree inner) =
      .running ⟨run.inputs.read.2.push again, run.scope, state⟩ := by
  obtain ⟨behind, unread⟩ := begins
  obtain ⟨kind, isDelimiter, isReference, meant⟩ := loops.writable.delimiter nofun
  obtain ⟨first, word, spelled⟩ := List.exists_cons_of_ne_nil isDelimiter.ne_nil
  rw [spelled] at isDelimiter unread meant
  have scanned : Lexeme.scan first (word ++ behind) = ⟨kind, first :: word⟩ :=
    scan_delimiter isDelimiter fun same => nomatch isReference same
  obtain ⟨sameKind, sameText, _⟩ := Input.read_of_scan underway unread.symm scanned
  have meaning : run.scope.meaning run.inputs.read.1.kind run.inputs.read.1.text =
      .event (.directive (.inclusion path)) run.scope := by
    rw [show run.inputs.read.1.kind = kind from sameKind,
      show run.inputs.read.1.text = first :: word from sameText]
    exact meant (.directive run.scope _)
  have opening := loops.directive quiet run.state run.inputs.read.2
  have failure := congrArg Opening.failure opening
  have opened := congrArg Opening.opened opening
  refine ⟨((resolver.including tree inner).directive run.state (.inclusion path)
    run.inputs.read.2).state, ?_⟩
  simp only [Run.step, meaning, Run.answer, failure, opened]
  rfl

/-- No number of steps is enough for such a run, and each of them suspends one more input. -/
theorem Loops.go (loops : resolver.Loops tree path again) (quiet : inner.Quiet) (bound : Nat)
    (run : Run σ) (underway : run.inputs.current.Underway)
    (begins : (Event.directive (.inclusion path)).spelling <+: run.inputs.current.unread) :
    (run.go (resolver.including tree inner) bound).verdict = .exhausted ∧
      (run.go (resolver.including tree inner) bound).inputs.depth = run.inputs.depth + bound := by
  induction bound generalizing run with
  | zero => exact ⟨rfl, rfl⟩
  | succ bound inductionHypothesis =>
    -- The step leads to the beginning of the file, from where the run goes on in the same way.
    obtain ⟨state, made⟩ := loops.step quiet underway begins
    rw [Run.go, made]
    obtain ⟨never, deep⟩ := inductionHypothesis ⟨run.inputs.read.2.push again, run.scope, state⟩
      (Input.underway_ofSource again) loops.begins
    refine ⟨never, deep.trans ?_⟩
    show run.inputs.depth + 1 + bound = run.inputs.depth + (bound + 1)
    omega

/-! ### Runs that never end -/

end Resolver

end Literate
