/-
This file proves that sorting finds the least of all orders. Two orders are compared
where they first differ, by the nodes they have there. Whatever order a graph is put
in, its first node depends on nothing, and sorting begins with the least node of that
kind; so no order begins with a smaller one. An order that begins with the same node
goes on with an order of the graph without it, and that is again what sorting does.
No node that is taken early has to be given back later.
-/

import Literate.Proofs.Building

namespace Literate

namespace Graph

variable {α : Type} [DecidableEq α]

/-! ### The front of an order -/

theorem Sorted.not_depends_first {graph : Graph α} {node : α} {rest : List α}
    (sorted : graph.Sorted (node :: rest)) (dependency : α) : ¬graph.Depends node dependency :=
  fun depends => List.not_mem_nil (sorted.after [] node rest rfl dependency depends)

/-- Behind its first node, an order is an order of the graph without that node. -/
theorem Sorted.tail {node : α} {edges : List (α × List α)} {rest : List α}
    (distinct : (edges.map Prod.fst).Nodup) (sorted : (⟨edges⟩ : Graph α).Sorted (node :: rest)) :
    (⟨without node edges⟩ : Graph α).Sorted rest where
  perm := by
    have fresh : node ∉ rest := (List.nodup_cons.mp (sorted.perm.nodup_iff.mpr distinct)).1
    have kept : (node :: rest).filter (· ≠ node) = rest := by
      rw [List.filter_cons_of_neg (by simp), List.filter_eq_self]
      intro other member
      exact decide_eq_true fun same => fresh (same ▸ member)
    rw [nodes_without, ← kept]
    exact sorted.perm.filter _
  after before later behind split dependency depends := by
    obtain ⟨_, apart, depends⟩ := depends_without.mp depends
    have splitAll : node :: rest = (node :: before) ++ later :: behind := by
      rw [split, List.cons_append]
    have inFront : dependency ∈ node :: before :=
      sorted.after (node :: before) later behind splitAll dependency depends
    exact (List.mem_cons.mp inFront).resolve_left apart

/-! ### The node that sorting takes -/

variable [LT α]

/-- No node without dependencies is smaller than the one that sorting takes. -/
theorem ready?_le {edges : List (α × List α)} (ascends : Ascends edges) {node other : α}
    (ready : ready? edges = some node) (member : other ∈ (⟨edges⟩ : Graph α).nodes)
    (free : ∀ dependency, ¬(⟨edges⟩ : Graph α).Depends other dependency) :
    node = other ∨ node < other := by
  obtain ⟨edge, found, rfl⟩ := Option.map_eq_some_iff.mp ready
  obtain ⟨_, before, behind, rfl, passed⟩ := List.find?_eq_some_iff_append.mp found
  obtain ⟨dependencies, located⟩ := mem_nodes_iff.mp member
  have nothing : dependencies = [] := List.eq_nil_iff_forall_not_mem.mpr fun dependency inside =>
    free dependency ⟨dependencies, located, inside⟩
  subst nothing
  -- Sorting passes over the nodes in front of the one it takes, since each depends on something.
  obtain inFront | isTaken | later : (other, []) ∈ before ∨ (other, []) = edge ∨
      (other, []) ∈ behind := by simpa using mem_of_lookup located
  · exact absurd (passed _ inFront) (by simp)
  · exact .inl (congrArg Prod.fst isTaken).symm
  · rw [Ascends, List.map_append, List.map_cons] at ascends
    obtain ⟨_, least, _⟩ := List.pairwise_append.mp ascends
    exact .inr ((List.pairwise_cons.mp least).1 other (List.mem_map_of_mem later))

theorem Ascends.without {edges : List (α × List α)} (ascends : Ascends edges) (node : α) :
    Ascends (without node edges) := by
  show (⟨Graph.without node edges⟩ : Graph α).nodes.Pairwise (· < ·)
  rw [nodes_without]
  exact ascends.filter _

/-! ### The order that sorting finds -/

variable [IsStrictTotalOrder α (· < ·)]

/-- Sorting what is left finds the least of its orders. -/
theorem order?_le {edges : List (α × List α)} {order other : List α} (ascends : Ascends edges)
    (found : order? edges = some order) (sorted : (⟨edges⟩ : Graph α).Sorted other) :
    order = other ∨ List.Lex (· < ·) order other := by
  induction edges using sorting_induction generalizing order other with
  | empty =>
    rw [order?_nil] at found
    obtain rfl := Option.some.inj found
    exact .inl sorted.perm.eq_nil.symm
  | stuck edges more stuck =>
    rw [order?_of_stuck more stuck] at found
    exact nomatch found
  | ready edges node ready inductionHypothesis =>
    rw [order?_of_ready ready] at found
    obtain ⟨rest, foundRest, rfl⟩ := Option.map_eq_some_iff.mp found
    have more : other ≠ [] :=
      List.ne_nil_of_mem (sorted.perm.mem_iff.mpr (mem_of_ready ready))
    obtain ⟨first, others, rfl⟩ := List.exists_cons_of_ne_nil more
    have member : first ∈ (⟨edges⟩ : Graph α).nodes :=
      sorted.perm.mem_iff.mp List.mem_cons_self
    have distinct : (edges.map Prod.fst).Nodup := ascends.nodup
    obtain rfl | less := ready?_le ascends ready member sorted.not_depends_first
    · obtain rfl | less :=
        inductionHypothesis (ascends.without node) foundRest (sorted.tail distinct)
      · exact .inl rfl
      · exact .inr (.cons less)
    · exact .inr (.rel less)

variable [DecidableLT α]

/-- Sorting finds the least order. Of a graph that any operations have led to, the order that is
found lists every node once, each behind all that it depends on; and any other list with these
two properties has the greater node where the two first differ. -/
theorem sort?_least (operations : List (Operation α)) :
    let graph := ofOperations operations
    graph.nodes.Nodup ∧ ∀ order, graph.sort? = some order →
      graph.Sorted order ∧
        ∀ other, graph.Sorted other → order = other ∨ List.Lex (· < ·) order other := by
  intro graph
  have ascends : Ascends graph.edges := (canonical_ofOperations operations).ascends
  have distinct : graph.nodes.Nodup := nodup_nodes ascends
  refine ⟨distinct, fun order found => ⟨sorted_of_order? distinct found, fun other sorted => ?_⟩⟩
  exact order?_le ascends found sorted

/-- A node that is free from the start is taken before a smaller one that still waits for another.
The order in which it comes last is an order as well, and a greater one. -/
theorem sort?_least_waiting :
    let graph : Graph Nat := ofOperations [.edge 1 3, .node 2]
    graph.sort? = some [2, 3, 1] ∧ graph.Sorted [3, 1, 2] ∧
      List.Lex (· < ·) [2, 3, 1] [3, 1, 2] := by
  intro graph
  have built : graph = ⟨[(1, [3]), (2, []), (3, [])]⟩ := by decide
  have found : graph.sort? = some [2, 3, 1] := by rw [built]; cbv
  have sorted : graph.Sorted [3, 1, 2] := by
    refine ⟨by rw [built]; decide, fun before node behind split dependency depends => ?_⟩
    obtain ⟨dependencies, located, inside⟩ := depends
    rw [built] at located
    obtain ⟨rfl, rfl⟩ | ⟨_, rfl⟩ | ⟨_, rfl⟩ : (node = 1 ∧ dependencies = [3]) ∨
        (node = 2 ∧ dependencies = []) ∨ (node = 3 ∧ dependencies = []) := by
      simpa using mem_of_lookup located
    · cases before with
      | nil => exact absurd (List.cons.inj split).1 (by decide)
      | cons first before =>
        rw [List.mem_singleton.mp inside, (List.cons.inj split).1]
        exact List.mem_cons_self
    · exact absurd inside List.not_mem_nil
    · exact absurd inside List.not_mem_nil
  exact ⟨found, sorted, (((sort?_least _).2 _ found).2 _ sorted).resolve_left (by decide)⟩

end Graph

end Literate
