/-
This file proves that expansion is substitution. The chain of the names that are being
expanded only decides whether an expansion fails: one that succeeds comes out the same
with any smaller chain. So a reference to a defined macro always stands for the
evaluation of that macro on its own, wherever it occurs, and the evaluation of a macro
is what its fragments stand for, written one after the other. It succeeds as soon as
all defined macros that it refers to can be evaluated.

A larger chain makes no difference either, as long as its names lead to the reference:
if the macro led back to one of them, it would be on a cycle and could not be evaluated
on its own.
-/

import Literate.Proofs.Cycles
import Mathlib.Data.List.Forall2

namespace Literate

/-- The text that a fragment stands for in a table. -/
inductive Fragment.StandsFor (table : MacroTable) : Fragment → Text → Prop where
  | literal (text : Text) : StandsFor table (.literal text) text
  | expanded {name text : Text} : table.evaluate name = .ok text →
      StandsFor table (.reference name) text
  | unresolved {name : Text} : name ∉ table.names →
      StandsFor table (.reference name) (referenceSpelling name)

namespace MacroTable

open Relation

variable {table : MacroTable}

theorem mem_names_of_evaluate {name text : Text} (succeeds : table.evaluate name = .ok text) :
    name ∈ table.names := by
  cases found : table.get? name with
  | none => simp [evaluate, evaluateInto, found] at succeeds
  | some body => exact mem_names_of_get? found

theorem rightUnique_standsFor : Relator.RightUnique (Fragment.StandsFor table) := by
  intro fragment first second isFirst isSecond
  cases isFirst with
  | literal =>
    cases isSecond
    rfl
  | expanded succeeds =>
    cases isSecond with
    | expanded also =>
      cases succeeds.symm.trans also
      rfl
    | unresolved absent => exact absurd (mem_names_of_evaluate succeeds) absent
  | unresolved absent =>
    cases isSecond with
    | expanded succeeds => exact absurd (mem_names_of_evaluate succeeds) absent
    | unresolved => rfl

/-! ### The chain of an expansion -/

theorem expand_undefined {name : Text} (undefined : table.get? name = none) (chain : List Text)
    (rest : List Fragment) :
    table.expand chain (.reference name :: rest) =
      (table.expand chain rest).after (referenceSpelling name) := by
  rw [expand]
  split
  · rfl
  · rename_i found
    cases undefined.symm.trans found

theorem expand_reference {name : Text} {body : List Fragment}
    (found : table.get? name = some body) (chain : List Text) (rest : List Fragment) :
    table.expand chain (.reference name :: rest) =
      if name ∈ chain then ⟨[], some (chain ++ [name])⟩
      else
        match (table.expand (chain ++ [name]) body).cycle with
        | some _ => table.expand (chain ++ [name]) body
        | none => (table.expand chain rest).after (table.expand (chain ++ [name]) body).text := by
  rw [expand]
  split
  · rename_i undefined
    cases undefined.symm.trans found
  · rename_i other foundOther
    cases found.symm.trans foundOther
    rfl

theorem expand_defined {name : Text} {body : List Fragment} (found : table.get? name = some body)
    {chain : List Text} (fresh : name ∉ chain)
    (succeeds : (table.expand (chain ++ [name]) body).cycle = none) (rest : List Fragment) :
    table.expand chain (.reference name :: rest) =
      (table.expand chain rest).after (table.expand (chain ++ [name]) body).text := by
  rw [expand_reference found, if_neg fresh, succeeds]

/-- An expansion that succeeds is the same with any part of its chain. -/
theorem expand_of_subset {chain smaller : List Text} {fragments : List Fragment}
    (succeeds : (table.expand chain fragments).cycle = none) (part : smaller ⊆ chain) :
    table.expand smaller fragments = table.expand chain fragments := by
  fun_induction expand table chain fragments generalizing smaller with
  | case1 => rw [expand]
  | case2 chain text rest inductionHypothesis =>
    rw [expand, inductionHypothesis succeeds part]
  | case3 chain name rest undefined inductionHypothesis =>
    rw [expand_undefined undefined, inductionHypothesis succeeds part]
  | case4 => cases succeeds
  | case5 _ _ _ _ _ _ _ _ fails =>
    rw [succeeds] at fails
    cases fails
  | case6 chain name rest body found fresh inner innerSucceeds inBody =>
    rename_i inRest
    have sameInner : table.expand (smaller ++ [name]) body = inner :=
      inBody innerSucceeds (List.append_subset.mpr
        ⟨List.subset_append_of_subset_left _ part, List.subset_append_right _ _⟩)
    rw [expand_defined found (fun entered => fresh (part entered)) (sameInner ▸ innerSucceeds),
      sameInner, inRest succeeds part]

/-- A macro that is expanded without a cycle inside of a chain evaluates to the same text. -/
theorem evaluate_of_expand {name : Text} {body : List Fragment}
    (found : table.get? name = some body) {chain : List Text} (inChain : name ∈ chain)
    (succeeds : (table.expand chain body).cycle = none) :
    table.evaluate name = .ok (table.expand chain body).text := by
  have same := expand_of_subset succeeds (List.cons_subset.mpr ⟨inChain, List.nil_subset _⟩)
  rw [evaluate_of_get? found, same, succeeds]

/-- What is expanded without a cycle is what the fragments stand for, one after the other. -/
theorem standsFor_of_expand {chain : List Text} {fragments : List Fragment}
    (succeeds : (table.expand chain fragments).cycle = none) :
    ∃ pieces, List.Forall₂ (Fragment.StandsFor table) fragments pieces ∧
      (table.expand chain fragments).text = pieces.flatten := by
  fun_induction expand table chain fragments with
  | case1 => exact ⟨[], .nil, rfl⟩
  | case2 chain text rest inductionHypothesis =>
    obtain ⟨pieces, stand, same⟩ := inductionHypothesis succeeds
    exact ⟨text :: pieces, .cons (.literal text) stand, congrArg (text ++ ·) same⟩
  | case3 chain name rest undefined inductionHypothesis =>
    obtain ⟨pieces, stand, same⟩ := inductionHypothesis succeeds
    have absent : name ∉ table.names := get?_eq_none_iff.mp undefined
    exact ⟨referenceSpelling name :: pieces, .cons (.unresolved absent) stand,
      congrArg (referenceSpelling name ++ ·) same⟩
  | case4 => cases succeeds
  | case5 _ _ _ _ _ _ _ _ fails =>
    rw [succeeds] at fails
    cases fails
  | case6 chain name rest body found _ inner innerSucceeds _ inRest =>
    obtain ⟨pieces, stand, same⟩ := inRest succeeds
    have evaluated : table.evaluate name = .ok inner.text :=
      evaluate_of_expand found (List.mem_append_right chain List.mem_cons_self) innerSucceeds
    exact ⟨inner.text :: pieces, .cons (.expanded evaluated) stand,
      congrArg (inner.text ++ ·) same⟩

/-! ### Evaluation -/

/-- A macro can be evaluated if all defined macros that it refers to can be. -/
theorem exists_evaluate {name : Text} {body : List Fragment} (found : table.get? name = some body)
    (each : ∀ target, .reference target ∈ body → target ∈ table.names →
      ∃ text, table.evaluate target = .ok text) :
    ∃ text, table.evaluate name = .ok text := by
  have isDefined := mem_names_of_get? found
  refine (evaluate_ok_or_cycle isDefined).resolve_right fun fails => ?_
  obtain ⟨target, leads, cycle⟩ := (evaluate_fails_iff isDefined).mp fails
  -- The first step towards the cycle goes to a macro that the body refers to.
  obtain ⟨next, refers, leadsOn⟩ : ∃ next, table.Refers name next ∧
      ∃ target, ReflTransGen table.Refers next target ∧ TransGen table.Refers target target := by
    rcases leads.cases_head with rfl | ⟨next, refers, leadsOn⟩
    · obtain ⟨next, refers, leadsBack⟩ := TransGen.head'_iff.mp cycle
      exact ⟨next, refers, name, leadsBack, cycle⟩
    · exact ⟨next, refers, target, leadsOn, cycle⟩
  obtain ⟨chain, nextFails⟩ := (evaluate_fails_iff refers.mem_names_target).mpr leadsOn
  obtain ⟨other, foundOther, isReference, isTarget⟩ := refers
  cases found.symm.trans foundOther
  obtain ⟨text, succeeds⟩ := each next isReference isTarget
  cases succeeds.symm.trans nextFails

theorem exists_evaluate_of_standsFor {fragments : List Fragment} {pieces : List Text}
    (stand : List.Forall₂ (Fragment.StandsFor table) fragments pieces) (target : Text)
    (member : .reference target ∈ fragments) (isDefined : target ∈ table.names) :
    ∃ text, table.evaluate target = .ok text := by
  induction stand with
  | nil => exact absurd member List.not_mem_nil
  | cons stands _ inductionHypothesis =>
    rcases List.mem_cons.mp member with rfl | later
    · cases stands with
      | expanded succeeds => exact ⟨_, succeeds⟩
      | unresolved absent => exact absurd isDefined absent
    · exact inductionHypothesis later

theorem standsFor_of_evaluate {name text : Text} {body : List Fragment}
    (found : table.get? name = some body) (succeeds : table.evaluate name = .ok text) :
    ∃ pieces, List.Forall₂ (Fragment.StandsFor table) body pieces ∧ text = pieces.flatten := by
  rw [evaluate_of_get? found] at succeeds
  cases ending : (table.expand [name] body).cycle with
  | none =>
    rw [ending] at succeeds
    cases succeeds
    exact standsFor_of_expand ending
  | some chain =>
    rw [ending] at succeeds
    cases succeeds

/-- The evaluation of a macro is what the fragments of its body stand for, one after the other. -/
theorem evaluate_eq_ok_iff {name : Text} {body : List Fragment}
    (found : table.get? name = some body) (text : Text) :
    table.evaluate name = .ok text ↔
      ∃ pieces, List.Forall₂ (Fragment.StandsFor table) body pieces ∧ text = pieces.flatten := by
  refine ⟨standsFor_of_evaluate found, ?_⟩
  rintro ⟨pieces, stand, rfl⟩
  obtain ⟨text, succeeds⟩ := exists_evaluate found (exists_evaluate_of_standsFor stand)
  obtain ⟨others, othersStand, rfl⟩ := standsFor_of_evaluate found succeeds
  rw [succeeds, List.right_unique_forall₂' rightUnique_standsFor stand othersStand]

/-! ### The way to a reference -/

/-- What the expansion of a root comes through: the names that are being expanded, and the
fragments that are left of the innermost one. Fragments behind a failure count as well. -/
inductive Expanding (table : MacroTable) (root : Text) : List Text → List Fragment → Prop where
  | root {body : List Fragment} : table.get? root = some body → Expanding table root [root] body
  | later {chain : List Text} {fragment : Fragment} {rest : List Fragment} :
      Expanding table root chain (fragment :: rest) → Expanding table root chain rest
  | entered {chain : List Text} {name : Text} {rest body : List Fragment} :
      Expanding table root chain (.reference name :: rest) → table.get? name = some body →
      name ∉ chain → Expanding table root (chain ++ [name]) body

/-- On the way to a fragment every name leads to what the fragment refers to. -/
theorem Expanding.leadsTo {root : Text} {chain : List Text} {fragments : List Fragment}
    (expanding : table.Expanding root chain fragments) : table.LeadsTo chain fragments := by
  induction expanding with
  | root found => exact leadsTo_body found
  | later _ inductionHypothesis => exact inductionHypothesis.later
  | entered _ found _ inductionHypothesis => exact inductionHypothesis.entered found

/-- A macro that can be evaluated is expanded without a cycle at the end of every chain that leads
to it, and is not in the chain. -/
theorem expand_of_evaluate {name text : Text} {body : List Fragment}
    (succeeds : table.evaluate name = .ok text) (found : table.get? name = some body)
    {chain : List Text} {rest : List Fragment}
    (leads : table.LeadsTo chain (.reference name :: rest)) :
    name ∉ chain ∧ table.expand (chain ++ [name]) body = ⟨text, none⟩ := by
  have isDefined := mem_names_of_evaluate succeeds
  have acyclic {target : Text} (reached : ReflTransGen table.Refers name target) :
      ¬TransGen table.Refers target target := by
    intro cycle
    obtain ⟨_, fails⟩ := (evaluate_fails_iff isDefined).mpr ⟨target, reached, cycle⟩
    cases succeeds.symm.trans fails
  have inChain : name ∈ chain ++ [name] := List.mem_append_right chain List.mem_cons_self
  have ends : (table.expand (chain ++ [name]) body).cycle = none := by
    refine Option.eq_none_iff_forall_ne_some.mpr fun cycle fails => ?_
    obtain ⟨target, onCycle, reached⟩ := exists_cycle_of_expand fails (leads.entered found)
    exact acyclic (reached name inChain).to_reflTransGen onCycle
  have evaluated := evaluate_of_expand found inChain ends
  cases succeeds.symm.trans evaluated
  refine ⟨fun entered => ?_, by rw [← ends]⟩
  exact acyclic .refl (leads name entered name List.mem_cons_self isDefined)

/-- A fragment contributes the text that it stands for, whatever is being expanded around it. -/
theorem expand_of_standsFor {fragment : Fragment} {text : Text}
    (stands : fragment.StandsFor table text) {chain : List Text} {rest : List Fragment}
    (leads : table.LeadsTo chain (fragment :: rest)) :
    table.expand chain (fragment :: rest) = (table.expand chain rest).after text := by
  cases stands with
  | literal => rw [expand]
  | unresolved absent => exact expand_undefined (get?_eq_none_iff.mpr absent) chain rest
  | expanded succeeds =>
    obtain ⟨body, found⟩ := exists_get?_iff.mpr (mem_names_of_evaluate succeeds)
    obtain ⟨fresh, inner⟩ := expand_of_evaluate succeeds found leads
    rw [expand_defined found fresh (by rw [inner]), inner]

/-- Expansion is compositional. In every table that events have built, the evaluation of a macro
is what the fragments of its body stand for, one after the other, where a reference to a defined
macro stands for the evaluation of that macro on its own; all of these exist if it exists, and it
exists if all of these do. A fragment stands for one text at most, and contributes it wherever it
comes up in the expansion of any macro, whatever names are being expanded around it. -/
theorem evaluate_compositional (events : List Event) :
    let table := ofEvents events
    (∀ name body, table.get? name = some body →
      (∀ text, table.evaluate name = .ok text →
        (∀ target, .reference target ∈ body → target ∈ table.names →
          ∃ piece, table.evaluate target = .ok piece) ∧
        ∃ pieces, List.Forall₂ (Fragment.StandsFor table) body pieces ∧ text = pieces.flatten) ∧
      ((∀ target, .reference target ∈ body → target ∈ table.names →
          ∃ piece, table.evaluate target = .ok piece) →
        ∃ text, table.evaluate name = .ok text)) ∧
    Relator.RightUnique (Fragment.StandsFor table) ∧
    ∀ root chain fragment rest, table.Expanding root chain (fragment :: rest) →
      ∀ text, fragment.StandsFor table text →
        table.expand chain (fragment :: rest) = (table.expand chain rest).after text := by
  intro table
  refine ⟨fun name body found => ⟨fun text succeeds => ?_, exists_evaluate found⟩,
    rightUnique_standsFor, fun root chain fragment rest expanding text stands =>
      expand_of_standsFor stands expanding.leadsTo⟩
  obtain ⟨pieces, stand, same⟩ := standsFor_of_evaluate found succeeds
  exact ⟨exists_evaluate_of_standsFor stand, pieces, stand, same⟩

/-- One macro is referred to by the root, from inside another macro, and in front of a reference
that closes a cycle. It contributes the same text everywhere. -/
theorem evaluate_compositional_in_front_of_cycle :
    let table := ofEvents
      [.opening .root ['*'], .reference ['x'], .reference ['y'], .reference ['u'], .closing,
        .opening .plain ['y'], .passage ['-'], .reference ['x'], .closing,
        .opening .plain ['x'], .passage ['1'], .closing,
        .opening .plain ['z'], .reference ['x'], .reference ['z'], .closing]
    table.evaluate ['*'] = .ok ['1', '-', '1', '<', '<', 'u', '>', '>'] ∧
      (∃ pieces, List.Forall₂ (Fragment.StandsFor table)
        [.reference ['x'], .reference ['y'], .reference ['u']] pieces ∧
        ['1', '-', '1', '<', '<', 'u', '>', '>'] = pieces.flatten) ∧
      table.expand [['z']] [.reference ['x'], .reference ['z']] =
        (table.expand [['z']] [.reference ['z']]).after ['1'] := by
  intro table
  have built : table = ⟨[(['*'], #[.reference ['x'], .reference ['y'], .reference ['u']]),
      (['y'], #[.literal ['-'], .reference ['x']]), (['x'], #[.literal ['1']]),
      (['z'], #[.reference ['x'], .reference ['z']])]⟩ := by decide
  have succeeds : table.evaluate ['*'] = .ok ['1', '-', '1', '<', '<', 'u', '>', '>'] := by
    rw [built]
    cbv
  have evaluated : table.evaluate ['x'] = .ok ['1'] := by rw [built]; cbv
  obtain ⟨composed, _, contributes⟩ := evaluate_compositional _
  exact ⟨succeeds, ((composed ['*'] _ (by decide)).1 _ succeeds).2,
    contributes ['z'] _ _ _ (.root (by decide)) _ (.expanded evaluated)⟩

end MacroTable

end Literate
