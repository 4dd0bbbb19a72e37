/-
This file says what a graph is in terms of the operations that have led to it. Entering a
node makes it forget what it depended on, while recording a dependency enters both of its
ends and forgets nothing; so what an operation leaves behind depends on everything that
comes after it. Looking back over a whole history the rule is short. The nodes are all
that were ever mentioned, and a node depends on another if that was recorded after the
node was last entered.

A graph is kept in order, hence it is the only one with its nodes and its dependencies.
So two histories of which this can be said alike lead to one and the same graph, and
where no node is entered on its own, only the set of the recorded pairs counts.
-/

import Literate.Proofs.Building
import Mathlib.Data.List.Induction

namespace Literate

namespace Graph

variable {α : Type}

/-! ### Looking back over a history -/

/-- The nodes that an operation mentions. -/
def Operation.mentioned : Operation α → List α
  | .node entered => [entered]
  | .edge dependent dependency => [dependent, dependency]

/-- A history mentions a node. -/
def Mentions (operations : List (Operation α)) (node : α) : Prop :=
  ∃ operation ∈ operations, node ∈ operation.mentioned

/-- One node was made to depend on another, and was not entered again since. -/
def Remembers (operations : List (Operation α)) (node dependency : α) : Prop :=
  ∃ before behind, operations = before ++ .edge node dependency :: behind ∧ .node node ∉ behind

theorem mentions_concat {operations : List (Operation α)} {operation : Operation α} {node : α} :
    Mentions (operations ++ [operation]) node ↔
      node ∈ operation.mentioned ∨ Mentions operations node := by
  simp only [Mentions, List.mem_append, List.mem_singleton, or_and_right, exists_or,
    exists_eq_left]
  exact or_comm

/-- A further operation is itself a dependency that was recorded, or it leaves the earlier ones
of a node alone unless it enters that node. -/
theorem remembers_concat {operations : List (Operation α)} {operation : Operation α}
    {node dependency : α} :
    Remembers (operations ++ [operation]) node dependency ↔
      operation = .edge node dependency ∨
        operation ≠ .node node ∧ Remembers operations node dependency := by
  constructor
  · rintro ⟨before, behind, split, absent⟩
    cases behind using List.reverseRecOn with
    | nil => exact .inl (List.singleton_inj.mp (List.append_inj' split rfl).2)
    | append_singleton behind last =>
      rw [← List.cons_append, ← List.append_assoc] at split
      obtain ⟨rfl, same⟩ := List.append_inj' split rfl
      obtain rfl : operation = last := List.singleton_inj.mp same
      rw [List.mem_append, List.mem_singleton, not_or] at absent
      exact .inr ⟨Ne.symm absent.2, before, behind, rfl, absent.1⟩
  · rintro (rfl | ⟨other, before, behind, rfl, absent⟩)
    · exact ⟨operations, [], rfl, List.not_mem_nil⟩
    · refine ⟨before, behind ++ [operation], List.append_assoc .., fun member => ?_⟩
      rcases List.mem_append.mp member with inside | last
      · exact absent inside
      · exact other (List.mem_singleton.mp last).symm

/-! ### What a history leads to -/

variable [DecidableEq α] [LT α] [DecidableLT α]

theorem ofOperations_concat (operations : List (Operation α)) (operation : Operation α) :
    ofOperations (operations ++ [operation]) = (ofOperations operations).perform operation :=
  List.foldl_concat ..

/-- The nodes of a graph are all that its history mentions. -/
theorem mem_nodes_ofOperations {operations : List (Operation α)} {node : α} :
    node ∈ (ofOperations operations).nodes ↔ Mentions operations node := by
  induction operations using List.reverseRecOn with
  | nil => exact ⟨nofun, fun ⟨_, member, _⟩ => nomatch member⟩
  | append_singleton operations operation inductionHypothesis =>
    rw [ofOperations_concat, mentions_concat, ← inductionHypothesis]
    cases operation with
    | node entered =>
      rw [perform, mem_nodes_addNode, Operation.mentioned, List.mem_singleton]
    | edge dependent dependency =>
      rw [perform, mem_nodes_addEdge, Operation.mentioned, List.mem_cons, List.mem_singleton,
        or_assoc]

variable [IsStrictTotalOrder α (· < ·)]

/-- The dependencies of a graph are those that its history remembers. -/
theorem depends_ofOperations {operations : List (Operation α)} {node dependency : α} :
    (ofOperations operations).Depends node dependency ↔
      Remembers operations node dependency := by
  induction operations using List.reverseRecOn with
  | nil =>
    constructor
    · exact fun ⟨_, found, _⟩ => nomatch found
    · exact fun ⟨_, _, split, _⟩ => absurd split.symm (by simp)
  | append_singleton operations operation inductionHypothesis =>
    have ascends := (canonical_ofOperations operations).ascends
    rw [ofOperations_concat, remembers_concat, ← inductionHypothesis]
    cases operation with
    | node entered =>
      rw [perform, depends_addNode ascends]
      simp [eq_comm]
    | edge dependent recorded =>
      rw [perform, depends_addEdge ascends]
      simp [eq_comm]

/-- Histories that mention the same nodes and remember the same dependencies lead to one graph. -/
theorem ofOperations_congr {first second : List (Operation α)}
    (mentions : ∀ node, Mentions first node ↔ Mentions second node)
    (remembers : ∀ node dependency,
      Remembers first node dependency ↔ Remembers second node dependency) :
    ofOperations first = ofOperations second := by
  refine (canonical_ofOperations first).eq_of_depends (canonical_ofOperations second) ?_ ?_
  · intro node
    rw [mem_nodes_ofOperations, mem_nodes_ofOperations, mentions]
  · funext node dependency
    rw [depends_ofOperations, depends_ofOperations, remembers]

/-! ### Histories of dependencies only -/

/-- The history that records pairs one after the other. -/
def recordings (pairs : List (α × α)) : List (Operation α) :=
  pairs.map fun pair => .edge pair.1 pair.2

omit [DecidableEq α] [LT α] [DecidableLT α] [IsStrictTotalOrder α (· < ·)] in
theorem mentions_recordings {pairs : List (α × α)} {node : α} :
    Mentions (recordings pairs) node ↔ ∃ pair ∈ pairs, node = pair.1 ∨ node = pair.2 := by
  simp [Mentions, recordings, Operation.mentioned]

omit [DecidableEq α] [LT α] [DecidableLT α] [IsStrictTotalOrder α (· < ·)] in
theorem remembers_recordings {pairs : List (α × α)} {node dependency : α} :
    Remembers (recordings pairs) node dependency ↔ (node, dependency) ∈ pairs := by
  have neverEntered : ∀ operations, operations ⊆ recordings pairs → .node node ∉ operations := by
    intro operations within member
    obtain ⟨pair, _, same⟩ := List.mem_map.mp (within member)
    cases same
  constructor
  · rintro ⟨before, behind, split, _⟩
    have member : .edge node dependency ∈ recordings pairs :=
      split ▸ List.mem_append_right before List.mem_cons_self
    obtain ⟨pair, inPairs, same⟩ := List.mem_map.mp member
    cases same
    exact inPairs
  · intro member
    obtain ⟨before, behind, split⟩ := List.append_of_mem (List.mem_map_of_mem member)
    refine ⟨before, behind, split, neverEntered behind fun operation inside => ?_⟩
    rw [recordings, split]
    exact List.mem_append_right before (List.mem_cons_of_mem _ inside)

/-! ### Sets of nodes and dependencies -/

/-- Building a graph is building a set of nodes and a set of pairs. Whatever the operations are,
the nodes are exactly those that some operation mentions. The dependencies of a node are, in
ascending order and each once, exactly what was recorded for it after it was last entered, and
each of them is a node. Where dependencies are recorded and nothing else is done, neither their
order nor repetitions make a difference to the graph or to the result of sorting it. -/
theorem ofOperations_sets :
    (∀ operations : List (Operation α),
      let graph := ofOperations operations
      (∀ node, graph.contains node = true ↔ Mentions operations node) ∧
        (∀ node dependencies, graph.dependencies? node = some dependencies ↔
          graph.contains node = true ∧ dependencies.Pairwise (· < ·) ∧
            ∀ dependency, dependency ∈ dependencies ↔ Remembers operations node dependency) ∧
        ∀ node dependencies, graph.dependencies? node = some dependencies →
          ∀ dependency ∈ dependencies, graph.contains dependency = true) ∧
      ∀ first second : List (α × α), (∀ pair, pair ∈ first ↔ pair ∈ second) →
        ofOperations (recordings first) = ofOperations (recordings second) ∧
          (ofOperations (recordings first)).sort? = (ofOperations (recordings second)).sort? := by
  constructor
  · intro operations graph
    have canonical : graph.Canonical := canonical_ofOperations operations
    have isNode (node : α) : graph.contains node = true ↔ node ∈ graph.nodes := decide_eq_true_iff
    have remembered {node : α} {dependencies : List α}
        (found : graph.dependencies? node = some dependencies) (dependency : α) :
        dependency ∈ dependencies ↔ Remembers operations node dependency := by
      rw [← depends_ofOperations, depends_iff, found, Option.getD_some]
    have ascending {node : α} {dependencies : List α}
        (found : graph.dependencies? node = some dependencies) :
        dependencies.Pairwise (· < ·) := by
      simpa [found] using canonical.dependencies node
    refine ⟨fun node => (isNode node).trans mem_nodes_ofOperations, fun node dependencies => ?_,
      fun node dependencies found dependency inside => ?_⟩
    · constructor
      · intro found
        exact ⟨(isNode node).mpr (mem_nodes_iff.mpr ⟨_, found⟩), ascending found,
          remembered found⟩
      · rintro ⟨contained, ascends, members⟩
        obtain ⟨listed, found⟩ := mem_nodes_iff.mp ((isNode node).mp contained)
        have same : listed = dependencies := (ascending found).eq_of_mem_iff ascends
          fun dependency => (remembered found dependency).trans (members dependency).symm
        rw [found, same]
    · exact (isNode dependency).mpr (canonical.closed node dependency ⟨_, found, inside⟩)
  · intro first second same
    have equal : ofOperations (recordings first) = ofOperations (recordings second) := by
      refine ofOperations_congr (fun node => ?_) fun node dependency => ?_
      · simp only [mentions_recordings, same]
      · rw [remembers_recordings, remembers_recordings, same]
    exact ⟨equal, congrArg sort? equal⟩

/-- A node depends on itself and on another one after it was entered again, and has lost what was
recorded before. Two pairs that are recorded in the other order, and one of them twice, give the
same graph. -/
theorem ofOperations_sets_entered_again :
    let graph : Graph Nat := ofOperations [.edge 1 2, .node 1, .edge 1 3, .edge 1 1, .node 3]
    graph.dependencies? 1 = some [1, 3] ∧ graph.contains 2 = true ∧
      ¬Remembers ([.edge 1 2, .node 1, .edge 1 3, .edge 1 1, .node 3] : List (Operation Nat)) 1 2 ∧
      ofOperations (recordings [(2, 1), (1, 3)]) =
        ofOperations (recordings [(1, 3), (2, 1), (1, 3)]) := by
  intro graph
  obtain ⟨sets, alike⟩ := ofOperations_sets (α := Nat)
  have found : graph.dependencies? 1 = some [1, 3] := by decide
  obtain ⟨_, dependencies, _⟩ := sets [.edge 1 2, .node 1, .edge 1 3, .edge 1 1, .node 3]
  obtain ⟨_, _, members⟩ := (dependencies 1 [1, 3]).mp found
  exact ⟨found, by decide, fun remembered => absurd ((members 2).mpr remembered) (by decide),
    (alike _ _ (by simp [or_comm])).1⟩

end Graph

end Literate
