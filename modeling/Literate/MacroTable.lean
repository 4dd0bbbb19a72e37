/-
This file collects the bodies of macros. A table keeps, for every macro name in the
order of first occurrence, the fragments that its bodies contributed; several bodies
of one name follow one another. A builder fills a table from the events of a run: it
keeps the place of every name in an index, knows at which place of the table a body is
open, and what occurs outside of bodies leaves no trace.
-/

import Literate.Event
import Literate.Graph

namespace Literate

/-- One piece of a macro body. -/
inductive Fragment where
  /-- Text of the document. -/
  | literal (text : Text)
  /-- A reference to another macro, looked up when the body is expanded. -/
  | reference (name : Text)
  deriving DecidableEq

/-- Macro names with their fragments, in order of first occurrence. -/
structure MacroTable where
  entries : List (Text × Array Fragment)
  deriving DecidableEq

namespace MacroTable

/-- The table without macros. -/
def empty : MacroTable := ⟨[]⟩

/-- The number of macros. -/
def size (table : MacroTable) : Nat := table.entries.length

/-- The names in order of first occurrence. -/
def names (table : MacroTable) : List Text := table.entries.map Prod.fst

/-- The place of a name in the table. -/
def indexOf? (table : MacroTable) (name : Text) : Option Nat :=
  table.entries.findIdx? fun entry => entry.1 = name

/-- The fragments of a macro. -/
def get? (table : MacroTable) (name : Text) : Option (List Fragment) :=
  (table.indexOf? name).bind fun index => table.entries[index]?.map fun entry => entry.2.toList

/-- Whether a macro is defined. -/
def contains (table : MacroTable) (name : Text) : Bool := (table.indexOf? name).isSome

/-- Adds a macro without fragments behind the others. -/
def enter (table : MacroTable) (name : Text) : MacroTable := ⟨table.entries ++ [(name, #[])]⟩

/-- Adds a fragment to the macro at a place of the table. -/
def push (table : MacroTable) (index : Nat) (fragment : Fragment) : MacroTable :=
  ⟨table.entries.modify index fun (name, fragments) => (name, fragments.push fragment)⟩

/-! ### Dependencies -/

/-- The macros that a list of fragments refers to, as far as they are defined. -/
def definedTargets (table : MacroTable) (fragments : List Fragment) : List Text :=
  fragments.filterMap fun
    | .literal _ => none
    | .reference name => if table.contains name then some name else none

/-- The graph of the defined names, each depending on the defined macros it refers to. -/
def dependencyGraph (table : MacroTable) : Graph Text :=
  let nodes := table.names.foldl Graph.addNode Graph.empty
  table.entries.foldl
    (fun graph entry =>
      (table.definedTargets entry.2.toList).foldl (fun graph target => graph.addEdge entry.1 target)
        graph)
    nodes

/-- The names in an order in which every macro comes after those it refers to. -/
def expansionOrder? (table : MacroTable) : Option (List Text) := table.dependencyGraph.sort?

/-! ### Building a table from events -/

/-- A table under construction, with the places of its names and that of the open body. -/
structure Builder where
  table : MacroTable
  /-- The index: each name of the table with its place. -/
  places : List (Text × Nat)
  openAt : Option Nat
  deriving DecidableEq

namespace Builder

/-- The builder before the first event. -/
def start : Builder := ⟨.empty, [], none⟩

/-- Adds a fragment to the open body, if there is one. -/
def contribute (builder : Builder) (fragment : Fragment) : Builder :=
  match builder.openAt with
  | some index => { builder with table := builder.table.push index fragment }
  | none => builder

/-- Opens a body of a name, which is entered into the table and the index if it is new. -/
def define (builder : Builder) (name : Text) : Builder :=
  match builder.places.lookup name with
  | some index => { builder with openAt := some index }
  | none =>
    let index := builder.table.size
    ⟨builder.table.enter name, (name, index) :: builder.places, some index⟩

/-- Takes one event into account. -/
def observe (builder : Builder) : Event → Builder
  | .passage text => builder.contribute (.literal text)
  | .opening _ name => builder.define name
  | .closing => { builder with openAt := none }
  | .reference name => builder.contribute (.reference name)
  | .substitution _ => builder
  | .directive _ => builder

end Builder

/-- The table that a list of events builds. -/
def ofEvents (events : List Event) : MacroTable := (events.foldl Builder.observe .start).table

end MacroTable

end Literate
