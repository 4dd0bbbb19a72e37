/-
This file collects the assignments that are made inside one section. Every body of
the section contributes, in order; plain placeholders are passed over.
-/

import Literate.Event

namespace Literate.Report

/-- The assignments of one section so far. -/
structure Extract where
  title : Text
  inside : Bool
  assignments : List (Text × Text)
  deriving DecidableEq

namespace Extract

/-- The extract of a section before the first event. -/
def start (title : Text) : Extract := ⟨title, false, []⟩

/-- Takes one event into account. -/
def observe (extract : Extract) : Event → Extract
  | .opening kind name =>
    { extract with inside := decide (kind = .sectional) && decide (name = extract.title) }
  | .closing => { extract with inside := false }
  | .substitution (.assignment key value) =>
    if extract.inside then { extract with assignments := extract.assignments ++ [(key, value)] }
    else extract
  | _ => extract

/-- One assignment as a line. -/
def line (assignment : Text × Text) : Text := assignment.1 ++ '=' :: assignment.2 ++ ['\n']

/-- The assignments as lines. -/
def render (extract : Extract) : Text := extract.assignments.flatMap line

end Extract

end Literate.Report
