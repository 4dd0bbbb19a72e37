/-
This file follows a graph from the empty one through any operations, each of which
enters a node or a dependency. Whatever the operations are, three things hold of the
graph they lead to. Its nodes ascend; the dependencies of each node ascend; and every
dependency is itself a node, also when a node that is entered once more loses the
dependencies it had, since what they led to stays a node.

The first two make a graph the only one with its nodes and its dependencies, so that
graphs can be compared through the relation they stand for. The third is what sorting
needs in order to find a cycle whenever it gets stuck.
-/

import Literate.Proofs.Sorting
import Mathlib.Data.List.Permutation
import Mathlib.Data.List.Sort

namespace Literate

namespace Graph

open Relation

variable {α : Type} [DecidableEq α] [LT α]

/-! ### Graphs in order -/

/-- The nodes ascend, the dependencies of every node ascend, and each of them is a node. -/
structure Canonical (graph : Graph α) : Prop where
  ascends : Ascends graph.edges
  dependencies : ∀ node, ((graph.dependencies? node).getD []).Pairwise (· < ·)
  closed : graph.Closed

theorem canonical_empty : (empty : Graph α).Canonical where
  ascends := ascends_empty
  dependencies _ := List.Pairwise.nil
  closed := fun _ _ ⟨_, found, _⟩ => nomatch found

omit [LT α] in
/-- Distinct nodes and what each of them depends on are all that edges consist of. -/
theorem edges_eq_map {edges : List (α × List α)} (distinct : (edges.map Prod.fst).Nodup) :
    edges = (edges.map Prod.fst).map fun node => (node, (edges.lookup node).getD []) := by
  rw [List.map_map]
  refine (List.map_id edges).symm.trans (List.map_congr_left fun edge member => ?_)
  rw [Function.comp_apply, lookup_of_mem distinct member]
  rfl

variable [DecidableLT α] [IsStrictTotalOrder α (· < ·)]

omit [DecidableLT α] in
/-- Two graphs in order are equal if they have the same nodes and the same dependencies. -/
theorem Canonical.eq_of_depends {first second : Graph α} (firstCanonical : first.Canonical)
    (secondCanonical : second.Canonical) (nodes : ∀ node, node ∈ first.nodes ↔ node ∈ second.nodes)
    (depends : first.Depends = second.Depends) : first = second := by
  have sameNodes : first.nodes = second.nodes :=
    firstCanonical.ascends.eq_of_mem_iff secondCanonical.ascends nodes
  have sameDependencies (node : α) :
      (first.dependencies? node).getD [] = (second.dependencies? node).getD [] := by
    refine (firstCanonical.dependencies node).eq_of_mem_iff (secondCanonical.dependencies node) ?_
    intro dependency
    rw [← depends_iff, ← depends_iff, depends]
  have sameEdges : first.edges = second.edges := by
    rw [edges_eq_map (nodup_nodes firstCanonical.ascends),
      edges_eq_map (nodup_nodes secondCanonical.ascends)]
    show first.nodes.map _ = second.nodes.map _
    rw [sameNodes]
    exact List.map_congr_left fun node _ => congrArg (Prod.mk node) (sameDependencies node)
  exact congrArg Graph.mk sameEdges

/-! ### Operations -/

/-- One way to add to a graph. -/
inductive Operation (α : Type) where
  /-- A node is entered without dependencies. -/
  | node (node : α)
  /-- One node is made to depend on another. -/
  | edge (dependent dependency : α)
  deriving DecidableEq

/-- Carries out one operation. -/
def perform (graph : Graph α) : Operation α → Graph α
  | .node node => graph.addNode node
  | .edge dependent dependency => graph.addEdge dependent dependency

/-- The graph that operations lead to from the empty one. -/
def ofOperations (operations : List (Operation α)) : Graph α := operations.foldl perform empty

theorem Canonical.addNode {graph : Graph α} (canonical : graph.Canonical) (node : α) :
    (graph.addNode node).Canonical where
  ascends := ascends_addNode canonical.ascends node
  dependencies key := by
    rw [dependencies?, Graph.addNode, lookup_adjust canonical.ascends]
    split
    · exact List.Pairwise.nil
    · exact canonical.dependencies key
  closed first second depends := by
    obtain ⟨_, depends⟩ := (depends_addNode canonical.ascends).mp depends
    exact mem_nodes_addNode.mpr (.inr (canonical.closed first second depends))

theorem Canonical.addEdge {graph : Graph α} (canonical : graph.Canonical)
    (dependent dependency : α) : (graph.addEdge dependent dependency).Canonical where
  ascends := ascends_addEdge canonical.ascends dependent dependency
  dependencies key := by
    rw [dependencies_addEdge canonical.ascends]
    split
    · exact pairwise_insertAscending (canonical.dependencies key) dependency
    · exact canonical.dependencies key
  closed first second depends := by
    rcases (depends_addEdge canonical.ascends).mp depends with ⟨_, rfl⟩ | depends
    · exact mem_nodes_addEdge.mpr (.inr (.inl rfl))
    · exact mem_nodes_addEdge.mpr (.inr (.inr (canonical.closed first second depends)))

/-- An operation keeps a graph in order. -/
theorem Canonical.perform {graph : Graph α} (canonical : graph.Canonical)
    (operation : Operation α) : (graph.perform operation).Canonical := by
  cases operation with
  | node node => exact canonical.addNode node
  | edge dependent dependency => exact canonical.addEdge dependent dependency

/-- Whatever operations have led to is in order. -/
theorem canonical_ofOperations (operations : List (Operation α)) :
    (ofOperations operations).Canonical := by
  have kept : ∀ {graph : Graph α}, graph.Canonical →
      (operations.foldl Graph.perform graph).Canonical := by
    induction operations with
    | nil => exact id
    | cons operation operations inductionHypothesis =>
      exact fun canonical => inductionHypothesis (canonical.perform operation)
  exact kept canonical_empty

/-! ### Sorting what was built -/

/-- Sorting finds an order of every graph that has one. A graph that any operations have led to
can be sorted exactly if no node depends on itself through one or more dependencies. The order
lists every node once and nothing else, and each node behind all that it depends on. -/
theorem sort?_ofOperations (operations : List (Operation α)) :
    let graph := ofOperations operations
    ((∃ order, graph.sort? = some order) ↔ ∀ node, ¬TransGen graph.Depends node node) ∧
      ∀ order, graph.sort? = some order →
        order.Nodup ∧ (∀ node, node ∈ order ↔ node ∈ graph.nodes) ∧
          ∀ before node behind, order = before ++ node :: behind →
            ∀ dependency, graph.Depends node dependency → dependency ∈ before := by
  intro graph
  have canonical : graph.Canonical := canonical_ofOperations operations
  have distinct : graph.nodes.Nodup := nodup_nodes canonical.ascends
  refine ⟨exists_sort?_iff distinct canonical.closed, fun order found => ?_⟩
  have sorted : graph.Sorted order := sorted_of_order? distinct found
  exact ⟨sorted.perm.nodup_iff.mpr distinct, fun node => sorted.perm.mem_iff, sorted.after⟩

/-- Two nodes depend on each other until one of them is entered again. -/
theorem sort?_ofOperations_entered_again :
    let graph : Graph Nat := ofOperations [.edge 3 1, .edge 1 2, .edge 2 1, .node 1]
    graph.sort? = some [1, 2, 3] ∧ (∀ node, ¬TransGen graph.Depends node node) ∧
      graph.Depends 2 1 := by
  intro graph
  have built : graph = ⟨[(1, []), (2, [1]), (3, [1])]⟩ := by decide
  have found : graph.sort? = some [1, 2, 3] := by rw [built]; cbv
  exact ⟨found, (sort?_ofOperations _).1.mp ⟨_, found⟩, [1], by rw [built]; rfl, List.mem_cons_self⟩

end Graph

end Literate
