/-
This file holds dependency graphs. A graph lists its nodes in ascending order, each
with the nodes it depends on, again in ascending order. Sorting takes, again and
again, the least node that depends on nothing that is left; when there is no such
node, the nodes that are left depend on each other in a cycle.
-/

import Literate.Ascending

namespace Literate

/-- Nodes with their dependencies, both in ascending order. -/
structure Graph (α : Type) where
  edges : List (α × List α)
  deriving DecidableEq

namespace Graph

variable {α : Type}

/-- The graph without nodes. -/
def empty : Graph α := ⟨[]⟩

/-- The number of nodes. -/
def size (graph : Graph α) : Nat := graph.edges.length

/-- The nodes in ascending order. -/
def nodes (graph : Graph α) : List α := graph.edges.map Prod.fst

/-! ### Sorting -/

/-- The least node without dependencies among those that are left. -/
def ready? (edges : List (α × List α)) : Option α :=
  (edges.find? fun edge => edge.2.isEmpty).map Prod.fst

variable [DecidableEq α]

/-- What is left after a node is taken: neither the node nor any dependency on it. -/
def without (node : α) (edges : List (α × List α)) : List (α × List α) :=
  (edges.filter fun edge => edge.1 ≠ node).map fun edge => (edge.1, edge.2.filter (· ≠ node))

theorem length_without_lt {node : α} {edges : List (α × List α)}
    (found : ready? edges = some node) : (without node edges).length < edges.length := by
  obtain ⟨edge, located, same⟩ := Option.map_eq_some_iff.mp found
  rw [without, List.length_map]
  have member : edge ∈ edges := List.mem_of_find?_eq_some located
  exact List.length_filter_lt_length_iff_exists.mpr ⟨edge, member, by simp [same]⟩

/-- Orders the nodes that are left, or finds that they cannot be ordered. -/
def order? (edges : List (α × List α)) : Option (List α) :=
  if edges.isEmpty then some []
  else
    match _ : ready? edges with
    | none => none
    | some node => (order? (without node edges)).map (node :: ·)
  termination_by edges.length
  decreasing_by exact length_without_lt ‹_›

/-- All nodes in an order in which each comes after its dependencies. There is none exactly when
the graph has a cycle. -/
def sort? (graph : Graph α) : Option (List α) := order? graph.edges

/-- The message for a graph that cannot be sorted. -/
def cycleMessage : String := "cycle detected"

/-! ### Building -/

/-- Whether a node is in the graph. -/
def contains (graph : Graph α) (node : α) : Bool := decide (node ∈ graph.nodes)

/-- The nodes that a node depends on. -/
def dependencies? (graph : Graph α) (node : α) : Option (List α) := graph.edges.lookup node

variable [LT α] [DecidableLT α]

/-- Changes the dependencies of a node, which is first given none if it is new. -/
def adjust (node : α) (change : List α → List α) : List (α × List α) → List (α × List α)
  | [] => [(node, change [])]
  | (key, dependencies) :: rest =>
    if node = key then (key, change dependencies) :: rest
    else if node < key then (node, change []) :: (key, dependencies) :: rest
    else (key, dependencies) :: adjust node change rest

/-- Enters a node without dependencies. A node that was there loses the ones it had. -/
def addNode (graph : Graph α) (node : α) : Graph α := ⟨adjust node (fun _ => []) graph.edges⟩

/-- Records that one node depends on another. Either is entered if it is new. -/
def addEdge (graph : Graph α) (dependent dependency : α) : Graph α :=
  ⟨adjust dependent (insertAscending dependency) (adjust dependency id graph.edges)⟩

end Graph

end Literate
