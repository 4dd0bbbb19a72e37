/-
This file stacks inputs. One input is current; opening another source suspends it,
and when the current input has ended the one suspended last is resumed where it
was left.
-/

import Literate.Input

namespace Literate

/-- The current input and the suspended ones, the innermost first. -/
structure Inputs where
  current : Input
  suspended : List Input
  deriving DecidableEq

namespace Inputs

/-- A single source with nothing suspended. -/
def ofSource (source : Source) : Inputs := ⟨.ofSource source, []⟩

/-- Suspends the current input and goes on with a source from its beginning. -/
def push (inputs : Inputs) (source : Source) : Inputs :=
  ⟨.ofSource source, inputs.current :: inputs.suspended⟩

/-- Opens sources one after the other, so that the last of them becomes current. -/
def pushAll (inputs : Inputs) (sources : List Source) : Inputs := sources.foldl push inputs

/-- Drops the current input and resumes the one suspended last. -/
def resume? (inputs : Inputs) : Option Inputs :=
  match inputs.suspended with
  | [] => none
  | input :: suspended => some ⟨input, suspended⟩

/-- Reads one token from the current input. -/
def read (inputs : Inputs) : Token × Inputs :=
  (inputs.current.read.1, { inputs with current := inputs.current.read.2 })

/-- The number of suspended inputs. -/
def depth (inputs : Inputs) : Nat := inputs.suspended.length

/-- The names of the suspended inputs, the outermost first. -/
def suspendedNames (inputs : Inputs) : List Text := (inputs.suspended.map Input.source).reverse

/-- The names of all inputs from the outermost to the current one. -/
def activeNames (inputs : Inputs) : List Text := inputs.suspendedNames ++ [inputs.current.source]

/-- The characters still to be read: those of the current input, then those of the suspended
ones from the innermost outwards. -/
def unread (inputs : Inputs) : Text :=
  inputs.current.unread ++ inputs.suspended.flatMap Input.unread

/-- A bound on the number of steps that reading everything takes when nothing more is opened:
one for each character and one for each input. -/
def budget (inputs : Inputs) : Nat := inputs.unread.length + inputs.depth + 1

end Inputs

end Literate
