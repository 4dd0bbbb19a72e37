/-
This file proves that expansion ends and how deep it goes. Expanding a macro goes through
its fragments and, at a reference, through those of the macro referred to, before it goes
on: calls that are nested in each other. Here the calls that have not returned are a
stack of their own, beside the chain of names and the buffer, and an expansion goes on in
single steps. No step looks ahead, so nothing says beforehand that the steps come to an end,
and references may lead round in circles.

The chain has one name for each call. A name is entered only if it is defined and not in
the chain, so the names of the chain are different and defined, and there are no more calls
than defined names. The steps follow the expansion fragment by fragment, whatever calls
are waiting for it to return; so they come to its end, with what it leaves in the buffer.
-/

import Literate.Proofs.Substitution
import Mathlib.Logic.Function.Iterate

namespace Literate

/-! ### Single steps of an expansion -/

/-- An expansion under way: the calls that have not returned, the innermost first, each with the
fragments that are still ahead of it; the names being expanded; and what was produced. -/
structure Descent where
  calls : List (List Fragment)
  chain : List Text
  buffer : Text
  deriving DecidableEq

/-- An expansion is under way, or it has ended. -/
inductive Stage where
  | underWay (descent : Descent)
  | ended (evaluation : MacroTable.Evaluation)
  deriving DecidableEq

namespace MacroTable

/-- One step of an expansion: it takes the next fragment of the innermost call, or returns from
it when none is left. -/
def advance (table : MacroTable) (descent : Descent) : Stage :=
  match descent.calls with
  | [] => .ended ⟨descent.buffer, none⟩
  | [] :: calls => .underWay ⟨calls, descent.chain.dropLast, descent.buffer⟩
  | (.literal text :: rest) :: calls =>
    .underWay ⟨rest :: calls, descent.chain, descent.buffer ++ text⟩
  | (.reference name :: rest) :: calls =>
    match table.get? name with
    | none => .underWay ⟨rest :: calls, descent.chain, descent.buffer ++ referenceSpelling name⟩
    | some body =>
      if descent.chain.contains name then
        .ended ⟨descent.buffer, some (.cycle (descent.chain ++ [name]))⟩
      else .underWay ⟨body :: rest :: calls, descent.chain ++ [name], descent.buffer⟩

/-- The stage after this one. An expansion that has ended stays as it is. -/
def next (table : MacroTable) : Stage → Stage
  | .underWay descent => table.advance descent
  | .ended evaluation => .ended evaluation

/-- The expansion of a macro before its first step: one call, or none if the macro is not
defined. -/
def begin (table : MacroTable) (root buffer : Text) : Stage :=
  match table.get? root with
  | none => .ended ⟨buffer, some (.rootNotFound root)⟩
  | some body => .underWay ⟨[body], [root], buffer⟩

/-- The expansion of a macro after so many steps. -/
def stageAfter (table : MacroTable) (root buffer : Text) (count : Nat) : Stage :=
  table.next^[count] (table.begin root buffer)

variable {table : MacroTable}

/-! ### The depth of calls -/

/-- There is one name for each call, and the names are different and defined. -/
structure Nested (table : MacroTable) (descent : Descent) : Prop where
  each : descent.calls.length = descent.chain.length
  distinct : descent.chain.Nodup
  defined : ∀ name ∈ descent.chain, name ∈ table.names

theorem Nested.length_calls_le {descent : Descent} (nested : table.Nested descent) :
    descent.calls.length ≤ table.size := by
  have few := (nested.distinct.subperm nested.defined).length_le
  rw [nested.each]
  exact few.trans_eq (List.length_map _)

/-- A step leaves the calls nested. -/
theorem Nested.advance {descent after : Descent} (nested : table.Nested descent)
    (made : table.advance descent = .underWay after) : table.Nested after := by
  obtain ⟨calls, chain, buffer⟩ := descent
  obtain ⟨each, distinct, isDefined⟩ := nested
  unfold MacroTable.advance at made
  dsimp only at made each distinct isDefined
  split at made
  · cases made
  · cases made
    refine ⟨?_, distinct.sublist (List.dropLast_sublist chain), fun name member => ?_⟩
    · rw [List.length_dropLast, ← each]
      rfl
    · exact isDefined name (List.mem_of_mem_dropLast member)
  · cases made
    exact ⟨each, distinct, isDefined⟩
  · -- Only a reference to a defined macro that is not in the chain adds a call.
    split at made
    · cases made
      exact ⟨each, distinct, isDefined⟩
    · rename_i found
      split at made
      · cases made
      · rename_i fresh
        cases made
        refine ⟨?_, ?_, ?_⟩
        · simpa using each
        · rw [← List.concat_eq_append]
          exact distinct.concat fun entered => fresh (List.contains_iff_mem.mpr entered)
        · intro name member
          rcases List.mem_append.mp member with earlier | last
          · exact isDefined name earlier
          · rw [List.mem_singleton.mp last]
            exact mem_names_of_get? found

theorem nested_of_begin {root buffer : Text} {descent : Descent}
    (made : table.begin root buffer = .underWay descent) : table.Nested descent := by
  unfold begin at made
  split at made
  · cases made
  · rename_i found
    cases made
    refine ⟨rfl, List.nodup_singleton root, fun name member => ?_⟩
    rw [List.mem_singleton.mp member]
    exact mem_names_of_get? found

/-- The calls are nested at every stage. -/
theorem nested_of_stageAfter {root buffer : Text} {count : Nat} {descent : Descent}
    (made : table.stageAfter root buffer count = .underWay descent) : table.Nested descent := by
  induction count generalizing descent with
  | zero => exact nested_of_begin made
  | succ count inductionHypothesis =>
    rw [stageAfter, Function.iterate_succ_apply', ← stageAfter] at made
    cases before : table.stageAfter root buffer count with
    | underWay earlier =>
      rw [before] at made
      exact (inductionHypothesis before).advance made
    | ended evaluation =>
      rw [before] at made
      cases made

/-! ### Where the steps lead -/

/-- One stage comes to another after some number of steps. -/
def Comes (table : MacroTable) (stage later : Stage) : Prop :=
  ∃ count, table.next^[count] stage = later

theorem Comes.trans {first second third : Stage} (earlier : table.Comes first second)
    (later : table.Comes second third) : table.Comes first third := by
  obtain ⟨count, rfl⟩ := earlier
  obtain ⟨more, rfl⟩ := later
  exact ⟨more + count, Function.iterate_add_apply _ _ _ _⟩

theorem comes_of_advance {descent : Descent} {later : Stage}
    (made : table.advance descent = later) : table.Comes (.underWay descent) later :=
  ⟨1, made⟩

/-- Where the innermost call has come to when its fragments have been expanded: to its end, or to
the end of everything. -/
def arrival (expansion : Expansion) (calls : List (List Fragment)) (chain : List Text)
    (buffer : Text) : Stage :=
  match expansion.cycle with
  | none => .underWay ⟨[] :: calls, chain, buffer ++ expansion.text⟩
  | some cycle => .ended ⟨buffer ++ expansion.text, some (.cycle cycle)⟩

theorem arrival_after (expansion : Expansion) (earlier : Text) (calls : List (List Fragment))
    (chain : List Text) (buffer : Text) :
    arrival (expansion.after earlier) calls chain buffer =
      arrival expansion calls chain (buffer ++ earlier) := by
  unfold arrival Expansion.after
  cases expansion.cycle <;> simp only [List.append_assoc]

theorem advance_of_fresh {name : Text} {body : List Fragment}
    (found : table.get? name = some body) {chain : List Text} (fresh : name ∉ chain)
    (rest : List Fragment) (calls : List (List Fragment)) (buffer : Text) :
    table.advance ⟨(.reference name :: rest) :: calls, chain, buffer⟩ =
      .underWay ⟨body :: rest :: calls, chain ++ [name], buffer⟩ := by
  simp only [advance, found, List.contains_iff_mem, if_neg fresh]

/-- The steps follow the expansion of fragments, whatever calls wait for it to return. -/
theorem comes_arrival (chain : List Text) (fragments : List Fragment)
    (calls : List (List Fragment)) (buffer : Text) :
    table.Comes (.underWay ⟨fragments :: calls, chain, buffer⟩)
      (arrival (table.expand chain fragments) calls chain buffer) := by
  -- The calls are generalised, because the body of a reference is expanded with one more waiting.
  fun_induction expand table chain fragments generalizing calls buffer with
  | case1 chain => exact ⟨0, by simp [arrival]⟩
  | case2 chain text rest inductionHypothesis =>
    rw [arrival_after]
    exact (comes_of_advance rfl).trans (inductionHypothesis calls (buffer ++ text))
  | case3 chain name rest undefined inductionHypothesis =>
    rw [arrival_after]
    refine (comes_of_advance ?_).trans
      (inductionHypothesis calls (buffer ++ referenceSpelling name))
    simp only [advance, undefined]
  | case4 chain name rest body found isEntered =>
    refine comes_of_advance ?_
    simp only [advance, found, List.contains_iff_mem, if_pos isEntered, arrival, List.append_nil]
  | case5 chain name rest body found fresh inner cycle fails inBody =>
    have failed : arrival inner (rest :: calls) (chain ++ [name]) buffer =
        arrival inner calls chain buffer := by
      simp only [arrival, fails]
    exact (comes_of_advance (advance_of_fresh found fresh rest calls buffer)).trans
      (failed ▸ inBody (rest :: calls) buffer)
  | case6 chain name rest body found fresh inner succeeds inBody inRest =>
    have returns : table.Comes (arrival inner (rest :: calls) (chain ++ [name]) buffer)
        (.underWay ⟨rest :: calls, chain, buffer ++ inner.text⟩) := by
      simp only [arrival, succeeds]
      refine comes_of_advance ?_
      simp only [advance, List.dropLast_concat]
    rw [arrival_after]
    exact (comes_of_advance (advance_of_fresh found fresh rest calls buffer)).trans
      ((inBody (rest :: calls) buffer).trans
        (returns.trans (inRest calls (buffer ++ inner.text))))

/-- The steps come to an end, with what evaluation leaves in the buffer. -/
theorem comes_evaluateInto (table : MacroTable) (root buffer : Text) :
    table.Comes (table.begin root buffer) (.ended (table.evaluateInto root buffer)) := by
  cases found : table.get? root with
  | none => exact ⟨0, by simp only [begin, evaluateInto, found, Function.iterate_zero_apply]⟩
  | some body =>
    simp only [begin, evaluateInto, found]
    refine (comes_arrival [root] body [] buffer).trans ?_
    unfold arrival
    cases (table.expand [root] body).cycle with
    | none => exact ⟨2, rfl⟩
    | some cycle => exact ⟨0, rfl⟩

/-- Expansion ends on every table, also if references lead round in circles. At every stage, the
names being expanded are different and defined, there is one for each call that has not returned,
and so there are never more calls nested in each other than macros in the table. After some number
of steps the expansion has ended, with the result and the buffer of the evaluation; and this is a
text, or the root is not defined, or there is a cycle. -/
theorem evaluateInto_ends (table : MacroTable) (root buffer : Text) :
    (∀ count descent, table.stageAfter root buffer count = .underWay descent →
      descent.chain.Nodup ∧ (∀ name ∈ descent.chain, name ∈ table.names) ∧
        descent.calls.length = descent.chain.length ∧ descent.calls.length ≤ table.size) ∧
    (∃ count, table.stageAfter root buffer count = .ended (table.evaluateInto root buffer)) ∧
    ((∃ text, table.evaluate root = .ok text) ∨
      table.evaluate root = .error (.rootNotFound root) ∨
      ∃ chain, table.evaluate root = .error (.cycle chain)) := by
  refine ⟨fun count descent made => ?_, table.comes_evaluateInto root buffer, ?_⟩
  · have nested := nested_of_stageAfter made
    exact ⟨nested.distinct, nested.defined, nested.each, nested.length_calls_le⟩
  · by_cases isDefined : root ∈ table.names
    · exact (evaluate_ok_or_cycle isDefined).imp_right .inr
    · refine .inr (.inl ?_)
      simp only [evaluate, evaluateInto, get?_eq_none_iff.mpr isDefined]

/-- Three macros refer to one another in a circle. Just before the circle closes, as many calls are
nested as there are macros. -/
theorem evaluateInto_ends_circle :
    let table := ofEvents
      [.opening .root ['*'], .passage ['1'], .reference ['a'], .closing,
        .opening .plain ['a'], .reference ['u'], .reference ['b'], .closing,
        .opening .plain ['b'], .passage ['2'], .reference ['*'], .passage ['3'], .closing]
    let descent : Descent :=
      ⟨[[.reference ['*'], .literal ['3']], [], []], [['*'], ['a'], ['b']],
        ['0', '1', '<', '<', 'u', '>', '>', '2']⟩
    table.stageAfter ['*'] ['0'] 5 = .underWay descent ∧ descent.chain.Nodup ∧
      descent.calls.length = 3 ∧ 3 ≤ table.size ∧
      ∃ count, table.stageAfter ['*'] ['0'] count =
        .ended ⟨descent.buffer, some (.cycle [['*'], ['a'], ['b'], ['*']])⟩ := by
  intro table descent
  have made : table.stageAfter ['*'] ['0'] 5 = .underWay descent := by decide
  obtain ⟨nested, ends, _⟩ := evaluateInto_ends table ['*'] ['0']
  obtain ⟨distinct, _, _, few⟩ := nested 5 descent made
  have built : table = ⟨[(['*'], #[.literal ['1'], .reference ['a']]),
      (['a'], #[.reference ['u'], .reference ['b']]),
      (['b'], #[.literal ['2'], .reference ['*'], .literal ['3']])]⟩ := by decide
  have evaluated : table.evaluateInto ['*'] ['0'] =
      ⟨descent.buffer, some (.cycle [['*'], ['a'], ['b'], ['*']])⟩ := by
    rw [built]
    cbv
  exact ⟨made, distinct, rfl, few, evaluated ▸ ends⟩

end MacroTable

end Literate
