/-
This file proves that sorting finds an order exactly if there is one. An order is
sorted if it lists every node once and each node comes after the ones it depends on.
Taking a node without dependencies away leaves a graph of the nodes that remain, with
the dependencies among them; so an order of the remainder with that node in front is
sorted again. When every node that remains depends on something, following the
dependencies never comes to an end, and since there are finitely many nodes, some
node depends on itself through others.
-/

import Literate.Proofs.Dependencies
import Mathlib.Data.Fintype.Card
import Mathlib.Data.Fintype.EquivFin
import Mathlib.Data.Fintype.Sets
import Mathlib.Logic.Relation

namespace Literate

namespace Graph

open Relation

variable {α : Type} [DecidableEq α]

/-- Every dependency is itself a node. -/
def Closed (graph : Graph α) : Prop :=
  ∀ node dependency, graph.Depends node dependency → dependency ∈ graph.nodes

/-- An order lists every node once, each after the nodes it depends on. -/
structure Sorted (graph : Graph α) (order : List α) : Prop where
  perm : order.Perm graph.nodes
  after : ∀ before node behind, order = before ++ node :: behind →
    ∀ dependency, graph.Depends node dependency → dependency ∈ before

/-! ### Taking a node away -/

theorem nodes_without (node : α) (edges : List (α × List α)) :
    (⟨without node edges⟩ : Graph α).nodes = (edges.map Prod.fst).filter (· ≠ node) := by
  rw [nodes, without, List.map_map, List.filter_map]
  rfl

theorem lookup_without (node key : α) (edges : List (α × List α)) :
    (without node edges).lookup key =
      if key = node then none else (edges.lookup key).map (List.filter (· ≠ node)) := by
  induction edges with
  | nil =>
    rw [without]
    split <;> rfl
  | cons edge edges inductionHypothesis =>
    obtain ⟨first, dependencies⟩ := edge
    unfold without at inductionHypothesis ⊢
    rw [List.filter_cons]
    by_cases isNode : first = node
    · subst isNode
      rw [if_neg (by simp), inductionHypothesis, lookup_cons_eq]
      by_cases same : key = first
      · rw [if_pos same, if_pos same]
      · rw [if_neg same, if_neg same, if_neg same]
    · rw [if_pos (by simpa using isNode), List.map_cons, lookup_cons_eq, lookup_cons_eq,
        inductionHypothesis]
      by_cases same : key = first
      · rw [if_pos same, if_neg (same ▸ isNode), if_pos same]
        rfl
      · rw [if_neg same, if_neg same]

theorem depends_without {node first second : α} {edges : List (α × List α)} :
    (⟨without node edges⟩ : Graph α).Depends first second ↔
      first ≠ node ∧ second ≠ node ∧ (⟨edges⟩ : Graph α).Depends first second := by
  rw [depends_iff, depends_iff, dependencies?, dependencies?, lookup_without]
  by_cases same : first = node
  · simp [same]
  · cases edges.lookup first with
    | none => simp [same]
    | some dependencies => simp [same, and_comm]

theorem Closed.without {node : α} {edges : List (α × List α)}
    (closed : (⟨edges⟩ : Graph α).Closed) : (⟨without node edges⟩ : Graph α).Closed := by
  intro first second depends
  obtain ⟨_, apart, depends⟩ := depends_without.mp depends
  rw [nodes_without]
  exact List.mem_filter.mpr ⟨closed first second depends, by simpa using apart⟩

/-! ### Nodes without dependencies -/

theorem not_depends_of_ready {node : α} {edges : List (α × List α)}
    (distinct : (edges.map Prod.fst).Nodup) (ready : ready? edges = some node) (dependency : α) :
    ¬(⟨edges⟩ : Graph α).Depends node dependency := by
  obtain ⟨edge, found, rfl⟩ := Option.map_eq_some_iff.mp ready
  have accepted := List.find?_some found
  rw [depends_iff, dependencies?, lookup_of_mem distinct (List.mem_of_find?_eq_some found)]
  rw [List.isEmpty_iff.mp accepted]
  exact List.not_mem_nil

omit [DecidableEq α] in
theorem mem_of_ready {node : α} {edges : List (α × List α)} (ready : ready? edges = some node) :
    node ∈ edges.map Prod.fst := by
  obtain ⟨edge, found, rfl⟩ := Option.map_eq_some_iff.mp ready
  exact List.mem_map_of_mem (List.mem_of_find?_eq_some found)

theorem exists_depends_of_not_ready {node : α} {edges : List (α × List α)}
    (stuck : ready? edges = none) (member : node ∈ (⟨edges⟩ : Graph α).nodes) :
    ∃ dependency, (⟨edges⟩ : Graph α).Depends node dependency := by
  obtain ⟨dependencies, found⟩ := mem_nodes_iff.mp member
  have nonempty := List.find?_eq_none.mp (Option.map_eq_none_iff.mp stuck) _ (mem_of_lookup found)
  obtain ⟨dependency, inside⟩ := List.exists_mem_of_ne_nil dependencies (by simpa using nonempty)
  exact ⟨dependency, dependencies, found, inside⟩

/-! ### Sorted orders -/

theorem perm_cons_filter {node : α} {nodes order : List α} (distinct : nodes.Nodup)
    (member : node ∈ nodes) (rest : order.Perm (nodes.filter (· ≠ node))) :
    (node :: order).Perm nodes := by
  have erased : nodes.filter (· ≠ node) = nodes.erase node := by
    rw [distinct.erase_eq_filter]
    exact List.filter_congr fun other _ => decide_not
  exact (rest.cons node).trans (erased ▸ (List.perm_cons_erase member).symm)

theorem Sorted.cons {node : α} {edges : List (α × List α)} {order : List α}
    (distinct : (edges.map Prod.fst).Nodup) (ready : ready? edges = some node)
    (sorted : (⟨without node edges⟩ : Graph α).Sorted order) :
    (⟨edges⟩ : Graph α).Sorted (node :: order) := by
  have perm : (node :: order).Perm (edges.map Prod.fst) :=
    perm_cons_filter distinct (mem_of_ready ready) (nodes_without node edges ▸ sorted.perm)
  refine ⟨perm, fun before later behind split dependency depends => ?_⟩
  cases before with
  | nil =>
    obtain ⟨rfl, _⟩ := List.cons_eq_cons.mp split
    exact absurd depends (not_depends_of_ready distinct ready dependency)
  | cons first before =>
    obtain ⟨rfl, rest⟩ := List.cons_eq_cons.mp split
    by_cases same : dependency = node
    · exact same ▸ List.mem_cons_self
    · have fresh : node ∉ order := (List.nodup_cons.mp (perm.nodup_iff.mpr distinct)).1
      have apart : later ≠ node := by
        rintro rfl
        exact fresh (rest ▸ List.mem_append_right before List.mem_cons_self)
      exact List.mem_cons_of_mem _
        (sorted.after before later behind rest dependency
          (depends_without.mpr ⟨apart, same, depends⟩))

/-! ### Sorting -/

theorem order?_nil : order? ([] : List (α × List α)) = some [] := by
  rw [order?]
  rfl

theorem order?_of_stuck {edges : List (α × List α)} (more : edges ≠ [])
    (stuck : ready? edges = none) : order? edges = none := by
  rw [order?, if_neg (by simpa using more)]
  split
  · rfl
  · rename_i found
    rw [stuck] at found
    cases found

theorem order?_of_ready {edges : List (α × List α)} {node : α}
    (ready : ready? edges = some node) :
    order? edges = (order? (without node edges)).map (node :: ·) := by
  have more : edges ≠ [] := by
    rintro rfl
    cases ready
  rw [order?, if_neg (by simpa using more)]
  split
  · rename_i found
    rw [ready] at found
    cases found
  · rename_i other found
    rw [ready] at found
    cases found
    rfl

/-- Sorting takes the nodes one after the other: what holds without edges, where no node is
ready, and of edges with a ready node as soon as it holds without that node, holds of all
edges. -/
@[elab_as_elim]
theorem sorting_induction {motive : List (α × List α) → Prop} (empty : motive [])
    (stuck : ∀ edges, edges ≠ [] → ready? edges = none → motive edges)
    (ready : ∀ edges node, ready? edges = some node → motive (without node edges) → motive edges)
    (edges : List (α × List α)) : motive edges := by
  induction edges using order?.induct with
  | case1 edges isEmpty =>
    rw [List.isEmpty_iff.mp isEmpty]
    exact empty
  | case2 edges more found => exact stuck edges (by simpa using more) found
  | case3 edges _ node found inductionHypothesis => exact ready edges node found inductionHypothesis

theorem sorted_of_order? {edges : List (α × List α)} {order : List α}
    (distinct : (edges.map Prod.fst).Nodup) (found : order? edges = some order) :
    (⟨edges⟩ : Graph α).Sorted order := by
  induction edges using sorting_induction generalizing order with
  | empty =>
    rw [order?_nil] at found
    cases found
    exact ⟨.refl _, fun before _ _ split => absurd split.symm (by simp)⟩
  | stuck edges more stuck =>
    rw [order?_of_stuck more stuck] at found
    cases found
  | ready edges node ready inductionHypothesis =>
    rw [order?_of_ready ready] at found
    obtain ⟨rest, foundRest, rfl⟩ := Option.map_eq_some_iff.mp found
    have distinctRest : (⟨without node edges⟩ : Graph α).nodes.Nodup := by
      rw [nodes_without]
      exact distinct.filter _
    exact (inductionHypothesis distinctRest foundRest).cons distinct ready

/-- Where every node depends on another, some node depends on itself. -/
theorem exists_cycle_of_stuck {edges : List (α × List α)}
    (closed : (⟨edges⟩ : Graph α).Closed) (more : edges ≠ []) (stuck : ready? edges = none) :
    ∃ node, TransGen (⟨edges⟩ : Graph α).Depends node node := by
  by_contra acyclic
  let onward (second first : {node // node ∈ (⟨edges⟩ : Graph α).nodes}) : Prop :=
    TransGen (⟨edges⟩ : Graph α).Depends first.1 second.1
  have : IsTrans _ onward := ⟨fun _ _ _ later earlier => earlier.trans later⟩
  have : Std.Irrefl onward := ⟨fun node cycle => acyclic ⟨node.1, cycle⟩⟩
  have wellFounded := Finite.wellFounded_of_trans_of_irrefl onward
  obtain ⟨first, rest, rfl⟩ := List.exists_cons_of_ne_nil more
  -- Going on from any node comes to an end, while every node has one to go on to.
  refine wellFounded.induction (C := fun _ => False) ⟨first.1, List.mem_cons_self⟩ ?_
  intro node inductionHypothesis
  obtain ⟨dependency, depends⟩ := exists_depends_of_not_ready stuck node.2
  exact inductionHypothesis ⟨dependency, closed _ _ depends⟩ (.single depends)

theorem exists_cycle_of_order? {edges : List (α × List α)}
    (closed : (⟨edges⟩ : Graph α).Closed) (failed : order? edges = none) :
    ∃ node, TransGen (⟨edges⟩ : Graph α).Depends node node := by
  induction edges using sorting_induction with
  | empty =>
    rw [order?_nil] at failed
    cases failed
  | stuck edges more stuck => exact exists_cycle_of_stuck closed more stuck
  | ready edges node ready inductionHypothesis =>
    rw [order?_of_ready ready, Option.map_eq_none_iff] at failed
    obtain ⟨first, cycle⟩ := inductionHypothesis closed.without failed
    exact ⟨first, TransGen.mono (fun _ _ depends => (depends_without.mp depends).2.2) _ _ cycle⟩

theorem Sorted.idxOf_lt {graph : Graph α} {order : List α} (sorted : graph.Sorted order)
    (distinct : graph.nodes.Nodup) {node dependency : α} (depends : graph.Depends node dependency) :
    order.idxOf dependency < order.idxOf node := by
  have member := sorted.perm.mem_iff.mpr depends.mem_nodes
  obtain ⟨before, behind, rfl⟩ := List.append_of_mem member
  have earlier := sorted.after before node behind rfl dependency depends
  have apart := (List.nodup_append.mp (sorted.perm.nodup_iff.mpr distinct)).2.2
  have fresh : node ∉ before := fun inFront => apart node inFront node List.mem_cons_self rfl
  rw [List.idxOf_append_of_mem earlier, List.idxOf_append_of_notMem fresh]
  exact Nat.lt_add_right _ (List.idxOf_lt_length_iff.mpr earlier)

theorem Sorted.acyclic {graph : Graph α} {order : List α} (sorted : graph.Sorted order)
    (distinct : graph.nodes.Nodup) (node : α) : ¬TransGen graph.Depends node node := by
  have descends : ∀ {first second}, TransGen graph.Depends first second →
      order.idxOf second < order.idxOf first := by
    intro first second leads
    induction leads with
    | single depends => exact sorted.idxOf_lt distinct depends
    | tail _ depends inductionHypothesis =>
      exact Nat.lt_trans (sorted.idxOf_lt distinct depends) inductionHypothesis
  exact fun cycle => Nat.lt_irrefl _ (descends cycle)

/-- Sorting succeeds exactly if no node depends on itself through others. -/
theorem exists_sort?_iff {graph : Graph α} (distinct : graph.nodes.Nodup) (closed : graph.Closed) :
    (∃ order, graph.sort? = some order) ↔ ∀ node, ¬TransGen graph.Depends node node := by
  constructor
  · rintro ⟨order, found⟩
    exact (sorted_of_order? distinct found).acyclic distinct
  · intro acyclic
    cases found : graph.sort? with
    | some order => exact ⟨order, rfl⟩
    | none =>
      obtain ⟨node, cycle⟩ := exists_cycle_of_order? closed found
      exact absurd cycle (acyclic node)

end Graph

end Literate
