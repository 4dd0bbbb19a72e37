/-
This file proves that evaluation is local. Expanding a macro asks for the fragments of the
names that its references lead to, and for nothing else: neither for the number of macros
nor for their order, and not for macros elsewhere, although the number of all macros is
what bounds the depth of an expansion. So two tables that answer alike to these names let
the macro come to the same end with the same text, in success and in failure.

A name that is referred to but not defined is among them, because it is asked for, and
its definition would change what is written. A name that is not among them may be
defined, changed or taken away, and may lead to a cycle.
-/

import Literate.Proofs.Bodies
import Literate.Proofs.Substitution

namespace Literate

namespace MacroTable

open Relation

variable {table other : MacroTable}

/-! ### The names that references lead to -/

/-- The body of a macro has a reference to a name, which may or may not be defined. -/
def Mentions (table : MacroTable) (name target : Text) : Prop :=
  ∃ body, table.get? name = some body ∧ .reference target ∈ body

/-- The references lead from a name to another in any number of steps, also in none. -/
abbrev Reaches (table : MacroTable) : Text → Text → Prop := ReflTransGen table.Mentions

/-- An expansion is the same in two tables that have the same fragments under every name that the
references lead to. -/
theorem expand_congr (reached : Text → Prop)
    (same : ∀ name, reached name → table.get? name = other.get? name)
    (onward : ∀ name body target, reached name → table.get? name = some body →
      .reference target ∈ body → reached target)
    {chain : List Text} {fragments : List Fragment}
    (each : ∀ target, .reference target ∈ fragments → reached target) :
    table.expand chain fragments = other.expand chain fragments := by
  fun_induction expand table chain fragments with
  | case1 => rw [expand]
  | case2 chain text rest inductionHypothesis =>
    rw [expand, inductionHypothesis fun target later => each target (List.mem_cons_of_mem _ later)]
  | case3 chain name rest undefined inductionHypothesis =>
    have undefinedToo := (same name (each name List.mem_cons_self)).symm.trans undefined
    rw [expand_undefined undefinedToo,
      inductionHypothesis fun target later => each target (List.mem_cons_of_mem _ later)]
  | case4 chain name rest body found entered =>
    have foundToo := (same name (each name List.mem_cons_self)).symm.trans found
    rw [expand_reference foundToo, if_pos entered]
  | case5 chain name rest body found fresh inner cycle fails inBody =>
    have isReached := each name List.mem_cons_self
    have foundToo := (same name isReached).symm.trans found
    have sameInner : inner = other.expand (chain ++ [name]) body :=
      inBody fun target => onward name body target isReached found
    rw [expand_reference foundToo, if_neg fresh, ← sameInner, fails]
  | case6 chain name rest body found fresh inner succeeds inBody inRest =>
    have isReached := each name List.mem_cons_self
    have foundToo := (same name isReached).symm.trans found
    have sameInner : inner = other.expand (chain ++ [name]) body :=
      inBody fun target => onward name body target isReached found
    rw [expand_defined foundToo fresh (sameInner ▸ succeeds), ← sameInner,
      inRest fun target later => each target (List.mem_cons_of_mem _ later)]

/-- A macro comes to the same end with the same text in two tables that have the same answer to
every name that its references lead to in the first of them. -/
theorem evaluateInto_of_reaches {root : Text}
    (same : ∀ name, table.Reaches root name → table.get? name = other.get? name)
    (buffer : Text) : table.evaluateInto root buffer = other.evaluateInto root buffer := by
  rw [evaluateInto, evaluateInto, ← same root .refl]
  cases found : table.get? root with
  | none => rfl
  | some body =>
    have sameExpansion : table.expand [root] body = other.expand [root] body :=
      expand_congr (table.Reaches root) same
        (fun name body target reached foundBody isReference =>
          reached.tail ⟨body, foundBody, isReference⟩)
        fun target isReference => .single ⟨body, found, isReference⟩
    simp only [sameExpansion]

end MacroTable

/-! ### Other bodies -/

/-- Nothing happens in the bodies of a name that is not open at the start and not opened later. -/
theorem Event.fragmentsOf_of_unopened {name : Text} {current : Option Text} {events : List Event}
    (elsewhere : current ≠ some name)
    (unopened : ∀ event ∈ events, event.openedName? ≠ some name) :
    fragmentsOf name current events = [] := by
  induction events generalizing current with
  | nil => rfl
  | cons event events inductionHypothesis =>
    obtain ⟨other, others⟩ := List.forall_mem_cons.mp unopened
    have elsewhereLater : openAfter current event ≠ some name := by
      cases event with
      | opening kind opened => exact other
      | closing => exact nofun
      | passage | reference | substitution | directive => exact elsewhere
    rw [fragmentsOf, if_neg elsewhere, inductionHypothesis elsewhereLater others, List.nil_append]

namespace MacroTable

/-- Events that open other names, and that leave no body open, make no difference to a name. -/
theorem get?_ofEvents_without {before written behind : List Event} {name : Text}
    (closedBefore : before.foldl Event.openAfter none = none)
    (closed : written.foldl Event.openAfter none = none)
    (unopened : name ∉ written.filterMap Event.openedName?) :
    (ofEvents (before ++ written ++ behind)).get? name =
      (ofEvents (before ++ behind)).get? name := by
  refine get?_ofEvents_congr ?_ ?_
  · simp only [List.filterMap_append, List.mem_append, unopened, or_false]
  · have others : ∀ event ∈ written, event.openedName? ≠ some name := fun event member opened =>
      unopened (List.mem_filterMap.mpr ⟨event, member, opened⟩)
    have nothing : Event.fragmentsOf name none written = [] :=
      Event.fragmentsOf_of_unopened nofun others
    simp only [List.append_assoc, Event.fragmentsOf_append, closedBefore, closed, nothing,
      List.nil_append]

/-- Evaluation is local. In any two tables that events have built, a macro comes to the same end
and leaves the same text behind any buffer, if the two have the same answer to every name that
the references lead to from it in the first table, itself included. So it makes no difference
when events that open none of these names are put in the place of others, whatever macros are
added, changed or taken away by that. -/
theorem evaluateInto_local :
    (∀ (first second : List Event) (root : Text),
      (∀ name, (ofEvents first).Reaches root name →
        (ofEvents first).get? name = (ofEvents second).get? name) →
      ∀ buffer, (ofEvents first).evaluateInto root buffer =
        (ofEvents second).evaluateInto root buffer) ∧
    ∀ (before written rewritten behind : List Event) (root : Text),
      before.foldl Event.openAfter none = none →
      written.foldl Event.openAfter none = none →
      rewritten.foldl Event.openAfter none = none →
      (∀ name, (ofEvents (before ++ written ++ behind)).Reaches root name →
        name ∉ written.filterMap Event.openedName? ∧
          name ∉ rewritten.filterMap Event.openedName?) →
      ∀ buffer, (ofEvents (before ++ written ++ behind)).evaluateInto root buffer =
        (ofEvents (before ++ rewritten ++ behind)).evaluateInto root buffer := by
  refine ⟨fun first second root same => evaluateInto_of_reaches same, ?_⟩
  intro before written rewritten behind root closedBefore closed closedToo apart
  refine evaluateInto_of_reaches fun name reached => ?_
  obtain ⟨unwritten, unwrittenToo⟩ := apart name reached
  rw [get?_ofEvents_without closedBefore closed unwritten,
    get?_ofEvents_without closedBefore closedToo unwrittenToo]

/-- The root leads through one macro back to itself, and to a name that is not defined. Written in
the other order, or with two macros between them that refer to each other, the two come to the
same cycle behind the same text. -/
theorem evaluateInto_local_cycles :
    let before : List Event :=
      [.opening .root ['*'], .passage ['1'], .reference ['a'], .reference ['u'], .closing]
    let behind : List Event :=
      [.opening .plain ['a'], .passage ['2'], .reference ['*'], .closing]
    let added : List Event :=
      [.opening .file ['b'], .reference ['c'], .closing, .opening .plain ['c'], .reference ['b'],
        .reference ['a'], .closing]
    let met : Evaluation := ⟨['0', '1', '2'], some (.cycle [['*'], ['a'], ['*']])⟩
    (ofEvents (behind ++ before)).evaluateInto ['*'] ['0'] = met ∧
      (ofEvents (before ++ added ++ behind)).evaluateInto ['*'] ['0'] = met := by
  intro before behind added met
  have built : ofEvents (before ++ [] ++ behind) =
      ⟨[(['*'], #[.literal ['1'], .reference ['a'], .reference ['u']]),
        (['a'], #[.literal ['2'], .reference ['*']])]⟩ := by decide
  have evaluated : (ofEvents (before ++ [] ++ behind)).evaluateInto ['*'] ['0'] = met := by
    rw [built]
    cbv
  have listed : ∀ name ∈ [['*'], ['a'], ['u']],
      ∀ fragment ∈ ((ofEvents (before ++ [] ++ behind)).get? name).getD [],
        fragment ∈ [.literal ['1'], .literal ['2'], .reference ['*'], .reference ['a'],
          .reference ['u']] := by decide
  have reached : ∀ name, (ofEvents (before ++ [] ++ behind)).Reaches ['*'] name →
      name ∈ [['*'], ['a'], ['u']] := by
    intro name reaches
    induction reaches with
    | refl => exact List.mem_cons_self
    | tail _ mentions inductionHypothesis =>
      obtain ⟨body, found, isReference⟩ := mentions
      have isListed := listed _ inductionHypothesis (.reference _) (by rwa [found])
      simpa using isListed
  have same : ∀ name ∈ [['*'], ['a'], ['u']], (ofEvents (before ++ [] ++ behind)).get? name =
      (ofEvents (behind ++ before)).get? name := by decide
  have apart : ∀ name ∈ [['*'], ['a'], ['u']],
      name ∉ ([] : List Event).filterMap Event.openedName? ∧
        name ∉ added.filterMap Event.openedName? := by decide
  obtain ⟨agreeing, replacing⟩ := evaluateInto_local
  refine ⟨?_, ?_⟩
  · rw [← agreeing _ (behind ++ before) ['*'] fun name reaches => same name (reached name reaches)]
    exact evaluated
  · rw [← replacing before [] added behind ['*'] rfl rfl rfl fun name reaches =>
      apart name (reached name reaches)]
    exact evaluated

end MacroTable

end Literate
