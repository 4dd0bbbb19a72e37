/-
This file proves that two ways to find a cycle of references agree. Expanding a macro
goes down its references with the chain of the names it came through, and fails when a
name would be entered again. Sorting the graph of all macros takes away one name after
the other, and fails when none is left that refers to nothing. Both ask whether the
references between defined names lead from some name back to itself: the expansion
of a name asks it for what the name leads to, and the sort asks it for all names.

An expansion that succeeds has gone through everything that its name leads to, so that
the name is accessible against the direction of the references; and no accessible name
leads to a cycle. An expansion that fails has a chain in which every name leads to the
next, so that the name entered again lies on a cycle.
-/

import Literate.Proofs.Sorting
import Literate.Proofs.Tables
import Mathlib.Data.Char
import Mathlib.Data.List.Lex
import Mathlib.Data.List.Permutation

namespace Literate

namespace MacroTable

open Relation

/-- The body of a macro has a reference to another macro, and both are defined. -/
def Refers (table : MacroTable) (name target : Text) : Prop :=
  ∃ body, table.get? name = some body ∧ .reference target ∈ body ∧ target ∈ table.names

variable {table : MacroTable}

theorem Refers.mem_names {name target : Text} (refers : table.Refers name target) :
    name ∈ table.names := by
  obtain ⟨body, found, _⟩ := refers
  exact exists_get?_iff.mp ⟨body, found⟩

theorem Refers.mem_names_target {name target : Text} (refers : table.Refers name target) :
    target ∈ table.names := by
  obtain ⟨_, _, _, isDefined⟩ := refers
  exact isDefined

/-! ### The graph of references -/

theorem mem_definedTargets {fragments : List Fragment} {target : Text} :
    target ∈ table.definedTargets fragments ↔
      .reference target ∈ fragments ∧ target ∈ table.names := by
  rw [definedTargets, List.mem_filterMap]
  constructor
  · rintro ⟨fragment, member, kept⟩
    cases fragment with
    | literal text => cases kept
    | reference name =>
      obtain ⟨isDefined, same⟩ := Option.ite_none_right_eq_some.mp kept
      cases same
      exact ⟨member, contains_iff.mp isDefined⟩
  · rintro ⟨member, isDefined⟩
    exact ⟨_, member, if_pos (contains_iff.mpr isDefined)⟩

/-- All references between defined names, in the order of the table. -/
def references (table : MacroTable) : List (Text × Text) :=
  table.entries.flatMap fun entry =>
    (table.definedTargets entry.2.toList).map fun target => (entry.1, target)

theorem mem_references (distinct : table.names.Nodup) {name target : Text} :
    (name, target) ∈ table.references ↔ table.Refers name target := by
  rw [references, List.mem_flatMap]
  constructor
  · rintro ⟨entry, member, made⟩
    obtain ⟨other, isTarget, same⟩ := List.mem_map.mp made
    cases same
    exact ⟨_, get?_of_mem distinct member, mem_definedTargets.mp isTarget⟩
  · rintro ⟨body, found, isTarget⟩
    rw [get?_eq_find?] at found
    obtain ⟨entry, located, rfl⟩ := Option.map_eq_some_iff.mp found
    obtain rfl : entry.1 = name := by simpa using List.find?_some located
    exact ⟨entry, List.mem_of_find?_eq_some located,
      List.mem_map_of_mem (mem_definedTargets.mpr isTarget)⟩

theorem dependencyGraph_eq (table : MacroTable) :
    table.dependencyGraph = table.references.foldl (fun graph pair => graph.addEdge pair.1 pair.2)
      (table.names.foldl Graph.addNode Graph.empty) := by
  rw [references, List.foldl_flatMap]
  simp only [List.foldl_map]
  rfl

/-- The graph of a table has the names as its nodes and the references as its dependencies. -/
theorem dependencyGraph_spec (distinct : table.names.Nodup) :
    Graph.Ascends table.dependencyGraph.edges ∧
      (∀ name, name ∈ table.dependencyGraph.nodes ↔ name ∈ table.names) ∧
      table.dependencyGraph.Depends = table.Refers := by
  have nothing : Graph.Ascends (Graph.empty : Graph Text).edges := Graph.ascends_empty
  obtain ⟨ascends, nodes, depends⟩ := Graph.foldl_addNode nothing table.names
  obtain ⟨ascendsAll, nodesAll, dependsAll⟩ := Graph.foldl_addEdge ascends table.references
  rw [dependencyGraph_eq]
  refine ⟨ascendsAll, fun name => ?_, ?_⟩
  · rw [nodesAll, nodes]
    constructor
    · rintro (⟨⟨first, second⟩, member, rfl | rfl⟩ | isDefined | absent)
      · exact ((mem_references distinct).mp member).mem_names
      · exact ((mem_references distinct).mp member).mem_names_target
      · exact isDefined
      · exact absurd absent List.not_mem_nil
    · exact fun isDefined => .inr (.inl isDefined)
  · funext first second
    refine propext ?_
    rw [dependsAll, depends, mem_references distinct]
    constructor
    · rintro (refers | ⟨_, _, absent, _⟩)
      · exact refers
      · cases absent
    · exact .inl

theorem closed_dependencyGraph (distinct : table.names.Nodup) : table.dependencyGraph.Closed := by
  obtain ⟨_, nodes, depends⟩ := dependencyGraph_spec distinct
  intro first second refers
  rw [depends] at refers
  exact (nodes second).mpr refers.mem_names_target

/-- The names can be ordered exactly if no name leads back to itself. -/
theorem exists_expansionOrder?_iff (distinct : table.names.Nodup) :
    (∃ order, table.expansionOrder? = some order) ↔
      ∀ name, ¬TransGen table.Refers name name := by
  obtain ⟨ascends, _, depends⟩ := dependencyGraph_spec distinct
  rw [← depends]
  exact Graph.exists_sort?_iff (Graph.nodup_nodes ascends) (closed_dependencyGraph distinct)

/-- An order of expansion lists every name once, each behind the names it refers to. -/
theorem expansionOrder?_sorted (distinct : table.names.Nodup) {order : List Text}
    (found : table.expansionOrder? = some order) :
    order.Perm table.names ∧ ∀ before name behind, order = before ++ name :: behind →
      ∀ target, table.Refers name target → target ∈ before := by
  obtain ⟨ascends, nodes, depends⟩ := dependencyGraph_spec distinct
  have nodup := Graph.nodup_nodes ascends
  have sorted := Graph.sorted_of_order? nodup found
  have sameNames : table.dependencyGraph.nodes.Perm table.names :=
    (List.perm_ext_iff_of_nodup nodup distinct).mpr nodes
  exact ⟨sorted.perm.trans sameNames, depends ▸ sorted.after⟩

/-! ### What an expansion has gone through -/

/-- A name from which the references do not lead on for ever. -/
abbrev Grounded (table : MacroTable) (name : Text) : Prop :=
  Acc (fun target name => table.Refers name target) name

theorem Grounded.not_cycle {name target : Text} (grounded : table.Grounded name)
    (leads : ReflTransGen table.Refers name target) : ¬TransGen table.Refers target target := by
  induction grounded generalizing target with
  | intro name _ inductionHypothesis =>
    intro cycle
    rcases leads.cases_head with rfl | ⟨next, refers, leadsOn⟩
    · obtain ⟨next, refers, leadsBack⟩ := TransGen.head'_iff.mp cycle
      exact inductionHypothesis next refers leadsBack cycle
    · exact inductionHypothesis next refers leadsOn cycle

theorem grounded_of_body {name : Text} {body : List Fragment} (found : table.get? name = some body)
    (each : ∀ target, .reference target ∈ body → target ∈ table.names → table.Grounded target) :
    table.Grounded name := by
  refine ⟨name, ?_⟩
  rintro target ⟨other, foundOther, isReference, isDefined⟩
  cases found.symm.trans foundOther
  exact each target isReference isDefined

/-- Every defined name that is referred to in an expansion without a cycle is grounded. -/
theorem grounded_of_expand {chain : List Text} {fragments : List Fragment}
    (succeeds : (table.expand chain fragments).cycle = none) (target : Text)
    (member : .reference target ∈ fragments) (isDefined : target ∈ table.names) :
    table.Grounded target := by
  fun_induction expand table chain fragments generalizing target with
  | case1 => exact absurd member List.not_mem_nil
  | case2 chain text rest inductionHypothesis =>
    exact inductionHypothesis succeeds target ((List.mem_cons.mp member).resolve_left nofun)
      isDefined
  | case3 chain name rest undefined inductionHypothesis =>
    rcases List.mem_cons.mp member with same | inRest
    · cases same
      exact absurd isDefined (get?_eq_none_iff.mp undefined)
    · exact inductionHypothesis succeeds target inRest isDefined
  | case4 => cases succeeds
  | case5 _ _ _ _ _ _ _ _ fails =>
    rw [succeeds] at fails
    cases fails
  | case6 chain name rest body found _ _ innerSucceeds inBody inRest =>
    rcases List.mem_cons.mp member with same | later
    · cases same
      exact grounded_of_body found (inBody innerSucceeds)
    · exact inRest succeeds target later isDefined

/-- Every name of a chain leads to every defined name that fragments refer to. -/
def LeadsTo (table : MacroTable) (chain : List Text) (fragments : List Fragment) : Prop :=
  ∀ name ∈ chain, ∀ target, .reference target ∈ fragments → target ∈ table.names →
    TransGen table.Refers name target

section

variable {chain : List Text} {fragment : Fragment} {rest : List Fragment}

theorem leadsTo_body {name : Text} {body : List Fragment} (found : table.get? name = some body) :
    table.LeadsTo [name] body := by
  intro first inChain target member isDefined
  cases List.mem_singleton.mp inChain
  exact .single ⟨body, found, member, isDefined⟩

theorem LeadsTo.later (leads : table.LeadsTo chain (fragment :: rest)) :
    table.LeadsTo chain rest := fun name inChain target member =>
  leads name inChain target (List.mem_cons_of_mem _ member)

/-- A chain leads on through the body of a macro that is referred to. -/
theorem LeadsTo.entered {name : Text} {body : List Fragment}
    (leads : table.LeadsTo chain (.reference name :: rest)) (found : table.get? name = some body) :
    table.LeadsTo (chain ++ [name]) body := by
  intro first inChain target member isDefined
  have refers : table.Refers name target := ⟨body, found, member, isDefined⟩
  rcases List.mem_append.mp inChain with earlier | last
  · exact (leads first earlier name List.mem_cons_self refers.mem_names).tail refers
  · cases List.mem_singleton.mp last
    exact .single refers

end

/-- An expansion that fails has found a cycle that every name of its chain leads to. -/
theorem exists_cycle_of_expand {chain cycle : List Text} {fragments : List Fragment}
    (fails : (table.expand chain fragments).cycle = some cycle)
    (leads : table.LeadsTo chain fragments) :
    ∃ target, TransGen table.Refers target target ∧
      ∀ name ∈ chain, TransGen table.Refers name target := by
  fun_induction expand table chain fragments with
  | case1 => cases fails
  | case2 chain text rest inductionHypothesis => exact inductionHypothesis fails leads.later
  | case3 chain name rest _ inductionHypothesis => exact inductionHypothesis fails leads.later
  | case4 chain name rest body found entered =>
    have isDefined := exists_get?_iff.mp ⟨body, found⟩
    have toName := fun first inChain => leads first inChain name List.mem_cons_self isDefined
    exact ⟨name, toName name entered, toName⟩
  | case5 chain name rest body found _ _ _ _ inBody =>
    obtain ⟨target, onCycle, reached⟩ := inBody fails (leads.entered found)
    exact ⟨target, onCycle, fun first inChain =>
      reached first (List.mem_append_left _ inChain)⟩
  | case6 chain name rest _ _ _ _ _ _ inRest => exact inRest fails leads.later

/-! ### Evaluation -/

theorem evaluate_of_get? {name : Text} {body : List Fragment}
    (found : table.get? name = some body) :
    table.evaluate name =
      match (table.expand [name] body).cycle with
      | none => .ok (table.expand [name] body).text
      | some chain => .error (.cycle chain) := by
  simp only [evaluate, evaluateInto, found]
  cases (table.expand [name] body).cycle <;> rfl

/-- The evaluation of a defined name fails exactly if the name leads to one on a cycle, and
then with the chain of a cycle. -/
theorem evaluate_fails_iff {name : Text} (isDefined : name ∈ table.names) :
    (∃ chain, table.evaluate name = .error (.cycle chain)) ↔
      ∃ target, ReflTransGen table.Refers name target ∧ TransGen table.Refers target target := by
  obtain ⟨body, found⟩ := exists_get?_iff.mpr isDefined
  rw [evaluate_of_get? found]
  cases ending : (table.expand [name] body).cycle with
  | none =>
    have grounded := grounded_of_body found (grounded_of_expand ending)
    refine iff_of_false nofun ?_
    rintro ⟨target, leads, cycle⟩
    exact grounded.not_cycle leads cycle
  | some chain =>
    refine iff_of_true ⟨chain, rfl⟩ ?_
    obtain ⟨target, cycle, reached⟩ := exists_cycle_of_expand ending (leadsTo_body found)
    exact ⟨target, (reached name List.mem_cons_self).to_reflTransGen, cycle⟩

theorem evaluate_ok_or_cycle {name : Text} (isDefined : name ∈ table.names) :
    (∃ text, table.evaluate name = .ok text) ∨
      ∃ chain, table.evaluate name = .error (.cycle chain) := by
  obtain ⟨body, found⟩ := exists_get?_iff.mpr isDefined
  rw [evaluate_of_get? found]
  cases (table.expand [name] body).cycle with
  | none => exact .inl ⟨_, rfl⟩
  | some chain => exact .inr ⟨chain, rfl⟩

/-! ### Both ways agree -/

/-- Ordering and expanding agree on cycles, in every table that events have built. There is an
order of expansion exactly if every defined name can be evaluated. The evaluation of a defined
name fails exactly if the references between defined names lead from it to a name that leads
back to itself, and it fails with the chain of a cycle. An order of expansion lists the names of
the table, each behind all defined names that it refers to. -/
theorem expansionOrder?_iff_evaluate (events : List Event) :
    let table := ofEvents events
    ((∃ order, table.expansionOrder? = some order) ↔
        ∀ name ∈ table.names, ∃ text, table.evaluate name = .ok text) ∧
      (∀ name ∈ table.names,
        ((∃ error, table.evaluate name = .error error) ↔
          ∃ target, ReflTransGen table.Refers name target ∧ TransGen table.Refers target target) ∧
        ∀ error, table.evaluate name = .error error → ∃ chain, error = .cycle chain) ∧
      ∀ order, table.expansionOrder? = some order →
        order.Perm table.names ∧ ∀ before name behind, order = before ++ name :: behind →
          ∀ target, table.Refers name target → target ∈ before := by
  intro table
  have distinct : table.names.Nodup := nodup_names_ofEvents events
  have onlyCycle : ∀ name ∈ table.names, ∀ error, table.evaluate name = .error error →
      ∃ chain, error = .cycle chain := by
    intro name isDefined error fails
    rcases evaluate_ok_or_cycle isDefined with ⟨_, succeeds⟩ | ⟨chain, sameFails⟩
    · cases succeeds.symm.trans fails
    · cases sameFails.symm.trans fails
      exact ⟨chain, rfl⟩
  refine ⟨?_, fun name isDefined => ⟨?_, onlyCycle name isDefined⟩,
    fun order found => expansionOrder?_sorted distinct found⟩
  · rw [exists_expansionOrder?_iff distinct]
    constructor
    · intro acyclic name isDefined
      refine (evaluate_ok_or_cycle isDefined).resolve_right fun fails => ?_
      obtain ⟨target, _, cycle⟩ := (evaluate_fails_iff isDefined).mp fails
      exact acyclic target cycle
    · intro succeed name cycle
      obtain ⟨_, refers, _⟩ := TransGen.head'_iff.mp cycle
      obtain ⟨_, fails⟩ := (evaluate_fails_iff refers.mem_names).mpr ⟨name, .refl, cycle⟩
      obtain ⟨_, succeeds⟩ := succeed name refers.mem_names
      cases succeeds.symm.trans fails
  · rw [← evaluate_fails_iff isDefined]
    constructor
    · rintro ⟨error, fails⟩
      obtain ⟨chain, rfl⟩ := onlyCycle name isDefined error fails
      exact ⟨chain, fails⟩
    · rintro ⟨chain, fails⟩
      exact ⟨_, fails⟩

/-- Two macros that refer to each other prevent an order, although the root does not lead to
them and can be evaluated. -/
theorem expansionOrder?_iff_evaluate_cycle_elsewhere :
    let table := ofEvents
      [.opening .root ['*'], .reference ['a'], .reference ['u'], .reference ['a'], .closing,
        .opening .plain ['a'], .passage ['x'], .opening .plain ['b'], .reference ['c'],
        .opening .plain ['c'], .reference ['a'], .reference ['b']]
    table.evaluate ['*'] = .ok ['x', '<', '<', 'u', '>', '>', 'x'] ∧
      ¬∃ order, table.expansionOrder? = some order := by
  intro table
  have built : table = ⟨[(['*'], #[.reference ['a'], .reference ['u'], .reference ['a']]),
      (['a'], #[.literal ['x']]), (['b'], #[.reference ['c']]),
      (['c'], #[.reference ['a'], .reference ['b']])]⟩ := by decide
  refine ⟨by rw [built]; cbv, fun ordered => ?_⟩
  obtain ⟨text, succeeds⟩ := (expansionOrder?_iff_evaluate _).1.mp ordered ['b'] (by decide)
  have fails : table.evaluate ['b'] = .error (.cycle [['b'], ['c'], ['b']]) := by rw [built]; cbv
  cases fails.symm.trans succeeds

end MacroTable

end Literate
