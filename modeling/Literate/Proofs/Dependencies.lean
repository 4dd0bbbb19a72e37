/-
This file says what a graph is, apart from the list that it is kept in: a set of
nodes and a relation between them. Entering a node or a dependency keeps the nodes
in ascending order, so that a node is never listed twice and looking it up finds
the one place where it is. From there every operation is described by the nodes that
it adds and by the pairs that it relates or forgets.
-/

import Literate.Graph
import Mathlib.Data.List.Nodup
import Mathlib.Order.RelClasses
import Mathlib.Tactic.Tauto

namespace Literate

/-- Inserting keeps a list in ascending order. -/
theorem pairwise_insertAscending {α : Type} [DecidableEq α] [LT α] [DecidableLT α]
    [IsStrictTotalOrder α (· < ·)] {values : List α} (ascends : values.Pairwise (· < ·))
    (value : α) : (insertAscending value values).Pairwise (· < ·) := by
  induction values with
  | nil => exact List.pairwise_singleton _ _
  | cons first rest inductionHypothesis =>
    obtain ⟨least, ascendsRest⟩ := List.pairwise_cons.mp ascends
    rw [insertAscending]
    split
    · exact ascends
    · rename_i different
      split
      · rename_i less
        refine List.pairwise_cons.mpr ⟨fun later member => ?_, ascends⟩
        rcases List.mem_cons.mp member with rfl | inRest
        · exact less
        · exact trans_of (· < ·) less (least later inRest)
      · rename_i notLess
        have greater : first < value :=
          ((trichotomous_of (· < ·) value first).resolve_left notLess).resolve_left different
        refine List.pairwise_cons.mpr ⟨fun later member => ?_, inductionHypothesis ascendsRest⟩
        rcases mem_insertAscending.mp member with rfl | inRest
        · exact greater
        · exact least later inRest

namespace Graph

variable {α : Type} [DecidableEq α]

/-! ### Looking up nodes -/

theorem lookup_cons_eq (node first : α) (dependencies : List α) (edges : List (α × List α)) :
    ((first, dependencies) :: edges).lookup node =
      if node = first then some dependencies else edges.lookup node := by
  rw [List.lookup_cons]
  by_cases same : node = first
  · rw [if_pos same, beq_iff_eq.mpr same]
  · rw [if_neg same, beq_eq_false_iff_ne.mpr same]

theorem mem_of_lookup {node : α} {dependencies : List α} {edges : List (α × List α)}
    (found : edges.lookup node = some dependencies) : (node, dependencies) ∈ edges := by
  obtain ⟨before, behind, rfl, _⟩ := List.lookup_eq_some_iff.mp found
  exact List.mem_append_right before List.mem_cons_self

theorem lookup_of_mem {node : α} {dependencies : List α} {edges : List (α × List α)}
    (distinct : (edges.map Prod.fst).Nodup) (member : (node, dependencies) ∈ edges) :
    edges.lookup node = some dependencies := by
  obtain ⟨before, behind, rfl⟩ := List.append_of_mem member
  refine List.lookup_eq_some_iff.mpr ⟨before, behind, rfl, fun edge inFront => ?_⟩
  rw [List.map_append, List.map_cons] at distinct
  have apart := (List.nodup_append.mp distinct).2.2 edge.1 (List.mem_map_of_mem inFront) node
    List.mem_cons_self
  exact bne_iff_ne.mpr (Ne.symm apart)

/-- One node depends directly on another. -/
def Depends (graph : Graph α) (node dependency : α) : Prop :=
  ∃ dependencies, graph.dependencies? node = some dependencies ∧ dependency ∈ dependencies

theorem depends_iff {graph : Graph α} {node dependency : α} :
    graph.Depends node dependency ↔ dependency ∈ (graph.dependencies? node).getD [] := by
  unfold Depends
  cases graph.dependencies? node with
  | none => simp
  | some dependencies => simp

theorem mem_nodes_iff {graph : Graph α} {node : α} :
    node ∈ graph.nodes ↔ ∃ dependencies, graph.dependencies? node = some dependencies := by
  unfold nodes dependencies?
  induction graph.edges with
  | nil => simp
  | cons edge edges inductionHypothesis =>
    obtain ⟨first, dependencies⟩ := edge
    rw [lookup_cons_eq, List.map_cons, List.mem_cons, inductionHypothesis]
    by_cases same : node = first
    · simp [same]
    · rw [if_neg same]
      exact or_iff_right same

theorem Depends.mem_nodes {graph : Graph α} {node dependency : α}
    (depends : graph.Depends node dependency) : node ∈ graph.nodes := by
  obtain ⟨dependencies, found, _⟩ := depends
  exact mem_nodes_iff.mpr ⟨dependencies, found⟩

/-! ### The nodes that are entered -/

variable [LT α] [DecidableLT α]

/-- Adjusting puts the node at its place among the others. -/
theorem keys_adjust (node : α) (change : List α → List α) (edges : List (α × List α)) :
    (adjust node change edges).map Prod.fst = insertAscending node (edges.map Prod.fst) := by
  induction edges with
  | nil => rfl
  | cons edge edges inductionHypothesis =>
    obtain ⟨first, dependencies⟩ := edge
    rw [adjust, List.map_cons, insertAscending]
    split
    · rfl
    · split
      · rfl
      · rw [List.map_cons, inductionHypothesis]

theorem mem_keys_adjust {node key : α} {change : List α → List α} {edges : List (α × List α)} :
    key ∈ (adjust node change edges).map Prod.fst ↔ key = node ∨ key ∈ edges.map Prod.fst := by
  rw [keys_adjust, mem_insertAscending]

theorem mem_nodes_addNode {graph : Graph α} {node other : α} :
    other ∈ (graph.addNode node).nodes ↔ other = node ∨ other ∈ graph.nodes :=
  mem_keys_adjust

theorem mem_nodes_addEdge {graph : Graph α} {dependent dependency other : α} :
    other ∈ (graph.addEdge dependent dependency).nodes ↔
      other = dependent ∨ other = dependency ∨ other ∈ graph.nodes := by
  rw [nodes, addEdge, mem_keys_adjust, mem_keys_adjust]
  rfl

/-! ### Ascending lists of edges -/

/-- The nodes of a list of edges ascend. -/
def Ascends (edges : List (α × List α)) : Prop := (edges.map Prod.fst).Pairwise (· < ·)

omit [DecidableEq α] [DecidableLT α] in
theorem ascends_empty : Ascends (empty : Graph α).edges := List.Pairwise.nil

variable [IsStrictTotalOrder α (· < ·)]

theorem Ascends.adjust {edges : List (α × List α)} (ascends : Ascends edges) (node : α)
    (change : List α → List α) : Ascends (adjust node change edges) := by
  rw [Ascends, keys_adjust]
  exact pairwise_insertAscending ascends node

omit [DecidableLT α] in
/-- A node below the first of ascending ones is not among them. -/
theorem lookup_eq_none_of_lt {edges : List (α × List α)} {node first : α}
    {dependencies : List α} (ascends : Ascends ((first, dependencies) :: edges))
    (less : node < first) : ((first, dependencies) :: edges).lookup node = none := by
  refine List.lookup_eq_none_iff.mpr fun edge member => bne_iff_ne.mpr ?_
  rintro rfl
  rcases List.mem_cons.mp member with rfl | inRest
  · exact irrefl_of (· < ·) _ less
  · have greater := (List.pairwise_cons.mp ascends).1 edge.1 (List.mem_map_of_mem inRest)
    exact asymm_of (· < ·) less greater

/-- Adjusting changes the dependencies of the one node, and of no other. -/
theorem lookup_adjust {edges : List (α × List α)} (ascends : Ascends edges) (node key : α)
    (change : List α → List α) :
    (adjust node change edges).lookup key =
      if key = node then some (change ((edges.lookup node).getD [])) else edges.lookup key := by
  induction edges with
  | nil => exact lookup_cons_eq key node (change []) []
  | cons edge edges inductionHypothesis =>
    obtain ⟨first, dependencies⟩ := edge
    rw [adjust]
    split
    · rename_i same
      subst same
      rw [lookup_cons_eq, lookup_cons_eq, if_pos rfl, lookup_cons_eq]
      split <;> rfl
    · rename_i different
      split
      · rename_i less
        rw [lookup_cons_eq, lookup_eq_none_of_lt ascends less]
        rfl
      · rw [lookup_cons_eq, inductionHypothesis (List.pairwise_cons.mp ascends).2, lookup_cons_eq,
          if_neg different, lookup_cons_eq]
        by_cases isFirst : key = first
        · rw [if_pos isFirst, if_neg (isFirst ▸ Ne.symm different), if_pos isFirst]
        · rw [if_neg isFirst, if_neg isFirst]

/-! ### What the operations do -/

section

variable {graph : Graph α} (ascends : Ascends graph.edges)

include ascends

omit [DecidableEq α] [DecidableLT α] in
theorem nodup_nodes : graph.nodes.Nodup := ascends.nodup

theorem ascends_addNode (node : α) : Ascends (graph.addNode node).edges := ascends.adjust node _

theorem ascends_addEdge (dependent dependency : α) :
    Ascends (graph.addEdge dependent dependency).edges :=
  (ascends.adjust dependency id).adjust dependent _

theorem depends_addNode {node first second : α} :
    (graph.addNode node).Depends first second ↔ first ≠ node ∧ graph.Depends first second := by
  rw [depends_iff, depends_iff, dependencies?, addNode, lookup_adjust ascends]
  by_cases same : first = node
  · simp [same]
  · simp [same, dependencies?]

/-- Recording a dependency adds it to those of the one node, and changes no other. -/
theorem dependencies_addEdge {dependent dependency : α} (key : α) :
    ((graph.addEdge dependent dependency).dependencies? key).getD [] =
      if key = dependent then insertAscending dependency ((graph.dependencies? key).getD [])
      else (graph.dependencies? key).getD [] := by
  have entered : ∀ node, ((adjust dependency id graph.edges).lookup node).getD [] =
      (graph.edges.lookup node).getD [] := by
    intro node
    rw [lookup_adjust ascends]
    by_cases same : node = dependency
    · simp [same]
    · simp [same]
  rw [dependencies?, addEdge, lookup_adjust (ascends.adjust dependency id), entered]
  by_cases same : key = dependent
  · simp [same, dependencies?]
  · simp [same, entered, dependencies?]

theorem depends_addEdge {dependent dependency first second : α} :
    (graph.addEdge dependent dependency).Depends first second ↔
      (first = dependent ∧ second = dependency) ∨ graph.Depends first second := by
  rw [depends_iff, depends_iff, dependencies_addEdge ascends]
  by_cases same : first = dependent
  · simp [same, mem_insertAscending]
  · simp [same]

end

/-! ### Many operations -/

/-- What entering nodes one after the other does. -/
theorem foldl_addNode {graph : Graph α} (ascends : Ascends graph.edges) (entered : List α) :
    let made := entered.foldl addNode graph
    Ascends made.edges ∧ (∀ node, node ∈ made.nodes ↔ node ∈ entered ∨ node ∈ graph.nodes) ∧
      ∀ first second, made.Depends first second ↔ first ∉ entered ∧ graph.Depends first second := by
  induction entered generalizing graph with
  | nil => exact ⟨ascends, by simp, by simp⟩
  | cons node entered inductionHypothesis =>
    obtain ⟨kept, nodes, depends⟩ := inductionHypothesis (ascends_addNode ascends node)
    refine ⟨kept, fun other => ?_, fun first second => ?_⟩
    · rw [List.foldl_cons, nodes, mem_nodes_addNode, List.mem_cons]
      tauto
    · rw [List.foldl_cons, depends, depends_addNode ascends, List.mem_cons, not_or]
      tauto

/-- What recording dependencies one after the other does. -/
theorem foldl_addEdge {graph : Graph α} (ascends : Ascends graph.edges) (pairs : List (α × α)) :
    let made := pairs.foldl (fun graph pair => graph.addEdge pair.1 pair.2) graph
    Ascends made.edges ∧
      (∀ node, node ∈ made.nodes ↔ (∃ pair ∈ pairs, node = pair.1 ∨ node = pair.2) ∨
        node ∈ graph.nodes) ∧
      ∀ first second, made.Depends first second ↔
        (first, second) ∈ pairs ∨ graph.Depends first second := by
  induction pairs generalizing graph with
  | nil => exact ⟨ascends, by simp, by simp⟩
  | cons pair pairs inductionHypothesis =>
    obtain ⟨kept, nodes, depends⟩ := inductionHypothesis (ascends_addEdge ascends pair.1 pair.2)
    refine ⟨kept, fun other => ?_, fun first second => ?_⟩
    · rw [List.foldl_cons, nodes, mem_nodes_addEdge, List.exists_mem_cons_iff]
      simp only [or_assoc, or_left_comm]
    · rw [List.foldl_cons, depends, depends_addEdge ascends, List.mem_cons, Prod.ext_iff]
      tauto

end Graph

end Literate
