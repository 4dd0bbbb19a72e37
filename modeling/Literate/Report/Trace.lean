/-
This file writes a trace of a run: one line for every event but plain text, indented
inside macro bodies.
-/

import Literate.Event

namespace Literate.Report

/-- The lines of a trace so far, and the indentation of the next one. -/
structure Trace where
  lines : Array Text
  indent : Nat
  deriving DecidableEq

namespace Trace

/-- The trace before the first event. -/
def start : Trace := ⟨#[], 0⟩

/-- The text of a trace. -/
def output (trace : Trace) : Text := trace.lines.toList.flatten

/-- The number of columns by which a macro body is indented. -/
def indentStep : Nat := 4

/-- Writes words on a line of its own. -/
def line (trace : Trace) (words : List Text) : Trace :=
  { trace with
    lines := trace.lines.push
      (List.replicate trace.indent ' ' ++ Text.join [' '] words ++ ['\n']) }

/-- Takes one event into account. -/
def observe (trace : Trace) : Event → Trace
  | .passage _ => trace
  | .opening kind name =>
    let written := trace.line [Text.ofString "begin macro", Text.ofString kind.label, name]
    { written with indent := written.indent + indentStep }
  | .closing => { trace with indent := trace.indent - indentStep }.line [Text.ofString "end macro"]
  | .reference name => trace.line [Text.ofString "macro ref", name]
  | .substitution made =>
    let front := [Text.ofString "substitution", Text.ofString made.label, made.key]
    match made.value? with
    | some value => trace.line (front ++ [['='], value])
    | none => trace.line front
  | .directive given =>
    trace.line [Text.ofString "directive", Text.ofString given.key, given.value]

end Trace

end Literate.Report
