/-
This file says what an expansion that fails leaves behind. From the macro that was
asked for, references lead through one macro after the other until a name comes a
second time: a lasso, whose loop closes at the last name of the reported chain. In
each body the expansion has gone through all fragments in front of the reference that
it followed, and each of these stands for a text; so the reference is the first one to
a defined macro that cannot be evaluated on its own, and there is only one lasso. What
stands in the buffer is what those fragments stand for, body by body.

Both directions are proved, so that the chain and the text are described completely: an
expansion fails with a chain and a text exactly if they form a lasso.
-/

import Literate.Proofs.Substitution

namespace Literate

theorem Expansion.after_after (expansion : Expansion) (first second : Text) :
    (expansion.after second).after first = expansion.after (first ++ second) := by
  simp [after, List.append_assoc]

namespace MacroTable

variable {table : MacroTable}

/-! ### Lassos -/

/-- The body of a macro refers to another defined macro, and each fragment in front of that
reference stands for a text: a defined macro that is referred to there can be evaluated on its
own. Together they stand for the given text. -/
def Link (table : MacroTable) (name next text : Text) : Prop :=
  ∃ before behind pieces, table.get? name = some (before ++ .reference next :: behind) ∧
    next ∈ table.names ∧ List.Forall₂ (Fragment.StandsFor table) before pieces ∧
    text = pieces.flatten

/-- Each name of a chain has a link to the next one, and the text is what stands in front of all
the links in order. -/
inductive Linked (table : MacroTable) : List Text → Text → Prop where
  | last (name : Text) : Linked table [name] []
  | link {name next text later : Text} {rest : List Text} : table.Link name next text →
      Linked table (next :: rest) later → Linked table (name :: next :: rest) (text ++ later)

/-- A chain of links from a root, in which the last name is the only one that occurs before. -/
structure Lasso (table : MacroTable) (root : Text) (chain : List Text) (text : Text) : Prop where
  starts : chain.head? = some root
  defined : ∀ name ∈ chain, name ∈ table.names
  distinct : chain.dropLast.Nodup
  closes : ∃ again ∈ chain.dropLast, chain.getLast? = some again
  linked : table.Linked chain text

/-! ### Where an expansion fails -/

/-- While the names of a chain are being expanded, fragments lead on to further names, the last of
which has been entered already, behind the given text. -/
inductive Snags (table : MacroTable) : List Text → List Fragment → List Text → Text → Prop where
  | again {chain : List Text} {before behind : List Fragment} {name : Text} {pieces : List Text} :
      List.Forall₂ (Fragment.StandsFor table) before pieces → name ∈ table.names → name ∈ chain →
      Snags table chain (before ++ .reference name :: behind) [name] pieces.flatten
  | entered {chain : List Text} {before behind body : List Fragment} {name text : Text}
      {pieces later : List Text} : List.Forall₂ (Fragment.StandsFor table) before pieces →
      table.get? name = some body → name ∉ chain → Snags table (chain ++ [name]) body later text →
      Snags table chain (before ++ .reference name :: behind) (name :: later)
        (pieces.flatten ++ text)

variable {chain later : List Text} {fragments : List Fragment} {text : Text}

theorem Snags.behind (snags : table.Snags chain fragments later text) {fragment : Fragment}
    {piece : Text} (stands : fragment.StandsFor table piece) :
    table.Snags chain (fragment :: fragments) later (piece ++ text) := by
  cases snags with
  | again stand isDefined isEntered => exact .again (.cons stands stand) isDefined isEntered
  | entered stand found fresh inner =>
    rw [← List.append_assoc]
    exact .entered (.cons stands stand) found fresh inner

/-- An expansion that fails has come to a name that was entered already. -/
theorem snags_of_expand {cycle : List Text}
    (fails : (table.expand chain fragments).cycle = some cycle) :
    ∃ later, cycle = chain ++ later ∧
      table.Snags chain fragments later (table.expand chain fragments).text := by
  fun_induction expand table chain fragments with
  | case1 => cases fails
  | case2 chain text rest inductionHypothesis =>
    obtain ⟨later, same, snags⟩ := inductionHypothesis fails
    exact ⟨later, same, snags.behind (.literal text)⟩
  | case3 chain name rest undefined inductionHypothesis =>
    obtain ⟨later, same, snags⟩ := inductionHypothesis fails
    exact ⟨later, same, snags.behind (.unresolved (get?_eq_none_iff.mp undefined))⟩
  | case4 chain name rest body found isEntered =>
    exact ⟨[name], (Option.some.inj fails).symm,
      .again .nil (mem_names_of_get? found) isEntered⟩
  | case5 chain name rest body found fresh inner _ _ inBody =>
    obtain ⟨later, same, snags⟩ := inBody fails
    exact ⟨name :: later, by rw [same, List.append_assoc]; rfl, .entered .nil found fresh snags⟩
  | case6 chain name rest body found _ inner innerSucceeds _ inRest =>
    obtain ⟨later, same, snags⟩ := inRest fails
    -- What succeeds inside of the chain is what the macro evaluates to on its own.
    have evaluated : table.evaluate name = .ok inner.text :=
      evaluate_of_expand found (List.mem_append_right chain List.mem_cons_self) innerSucceeds
    exact ⟨later, same, snags.behind (.expanded evaluated)⟩

/-- Fragments contribute what they stand for, one after the other, in front of any others. -/
theorem expand_append {before rest : List Fragment} {pieces : List Text}
    (stand : List.Forall₂ (Fragment.StandsFor table) before pieces)
    (leads : table.LeadsTo chain (before ++ rest)) :
    table.expand chain (before ++ rest) = (table.expand chain rest).after pieces.flatten := by
  induction stand with
  | nil => rfl
  | cons stands _ inductionHypothesis =>
    rw [List.cons_append] at leads ⊢
    rw [expand_of_standsFor stands leads, inductionHypothesis leads.later, List.flatten_cons,
      Expansion.after_after]

theorem LeadsTo.append {before rest : List Fragment}
    (leads : table.LeadsTo chain (before ++ rest)) : table.LeadsTo chain rest :=
  fun name inChain target member =>
    leads name inChain target (List.mem_append_right before member)

/-- Where fragments lead on to a name that was entered already, the expansion fails. -/
theorem Snags.expand (snags : table.Snags chain fragments later text)
    (leads : table.LeadsTo chain fragments) :
    table.expand chain fragments = ⟨text, some (chain ++ later)⟩ := by
  induction snags with
  | again stand isDefined isEntered =>
    obtain ⟨body, found⟩ := exists_get?_iff.mpr isDefined
    rw [expand_append stand leads, expand_reference found, if_pos isEntered]
    simp [Expansion.after]
  | @entered chain _ _ body name text _ later stand found fresh _ inductionHypothesis =>
    have inner := inductionHypothesis (leads.append.entered found)
    rw [expand_append stand leads, expand_reference found, if_neg fresh, inner]
    simp [Expansion.after]

/-! ### The lasso of a failure -/

/-- Where an expansion fails, the names that it has come through are linked. -/
theorem Snags.linked (snags : table.Snags chain fragments later text) {name : Text}
    (found : table.get? name = some fragments) (distinct : chain.Nodup) :
    table.Linked (name :: later) text ∧ ∃ front again,
      later = front ++ [again] ∧ (chain ++ front).Nodup ∧ again ∈ chain ++ front := by
  induction snags generalizing name with
  | @again chain _ _ next pieces stand isDefined isEntered =>
    have link : table.Link name next pieces.flatten := ⟨_, _, _, found, isDefined, stand, rfl⟩
    refine ⟨List.append_nil pieces.flatten ▸ .link link (.last next), [], next, rfl, ?_⟩
    rw [List.append_nil]
    exact ⟨distinct, isEntered⟩
  | @entered chain _ _ body next text pieces later stand foundNext fresh _ inductionHypothesis =>
    have link : table.Link name next pieces.flatten :=
      ⟨_, _, _, found, mem_names_of_get? foundNext, stand, rfl⟩
    obtain ⟨linked, front, again, rfl, distinctToo, isEntered⟩ :=
      inductionHypothesis foundNext (List.concat_eq_append ▸ distinct.concat fresh)
    refine ⟨.link link linked, next :: front, again, rfl, ?_⟩
    rw [← List.append_cons] at distinctToo isEntered
    exact ⟨distinctToo, isEntered⟩

/-- Linked names of which the last one alone has been entered already are where an expansion
fails. -/
theorem Linked.snags {name again : Text} {front : List Text}
    (linked : table.Linked (name :: (front ++ [again])) text)
    (found : table.get? name = some fragments) (distinct : (chain ++ front).Nodup)
    (isEntered : again ∈ chain ++ front) : table.Snags chain fragments (front ++ [again]) text := by
  -- The chain grows by each name that is entered, until only the last one is left.
  induction front generalizing chain name fragments text with
  | nil =>
    obtain _ | ⟨⟨before, behind, pieces, foundToo, isDefined, stand, rfl⟩, _ | _⟩ := linked
    obtain rfl := Option.some.inj (found.symm.trans foundToo)
    rw [List.append_nil] at isEntered ⊢
    exact .again stand isDefined isEntered
  | cons next front inductionHypothesis =>
    obtain _ | ⟨⟨before, behind, pieces, foundToo, isDefined, stand, rfl⟩, linkedRest⟩ := linked
    obtain rfl := Option.some.inj (found.symm.trans foundToo)
    obtain ⟨body, foundNext⟩ := exists_get?_iff.mpr isDefined
    have fresh : next ∉ chain := fun member =>
      (List.nodup_append.mp distinct).2.2 next member next List.mem_cons_self rfl
    rw [List.append_cons] at distinct isEntered
    exact .entered stand foundNext fresh
      (inductionHypothesis linkedRest foundNext distinct isEntered)

theorem Linked.mem_names (linked : table.Linked chain text) :
    ∀ name ∈ chain.tail, name ∈ table.names := by
  induction linked with
  | last name => exact fun name member => absurd member List.not_mem_nil
  | link link _ inductionHypothesis =>
    obtain ⟨_, _, _, _, isDefined, _⟩ := link
    exact List.forall_mem_cons.mpr ⟨isDefined, inductionHypothesis⟩

/-- The expansion of a macro fails with a chain, and behind a text, exactly if they form a lasso. -/
theorem expand_eq_cycle_iff {root : Text} {body : List Fragment}
    (found : table.get? root = some body) :
    table.expand [root] body = ⟨text, some chain⟩ ↔ table.Lasso root chain text := by
  constructor
  · intro fails
    obtain ⟨later, rfl, snags⟩ := snags_of_expand (congrArg Expansion.cycle fails)
    rw [fails] at snags
    obtain ⟨linked, front, again, rfl, distinct, isEntered⟩ :=
      snags.linked found (List.nodup_singleton root)
    have shape : [root] ++ (front ++ [again]) = ([root] ++ front) ++ [again] :=
      (List.append_assoc _ _ _).symm
    rw [shape]
    refine ⟨rfl, ?_, ?_, ⟨again, ?_, List.getLast?_concat⟩, shape ▸ linked⟩
    · rw [← shape]
      exact List.forall_mem_cons.mpr ⟨mem_names_of_get? found, linked.mem_names⟩
    · rwa [List.dropLast_concat]
    · rwa [List.dropLast_concat]
  · rintro ⟨starts, _, distinct, ⟨again, isEntered, ends⟩, linked⟩
    have shape : chain.dropLast ++ [again] = chain := List.dropLast_append_getLast? again ends
    generalize chain.dropLast = path at distinct isEntered shape
    subst shape
    obtain ⟨first, front, rfl⟩ := List.exists_cons_of_ne_nil (List.ne_nil_of_mem isEntered)
    obtain rfl : first = root := Option.some.inj starts
    have snags : table.Snags [first] body (front ++ [again]) text :=
      linked.snags found distinct isEntered
    exact snags.expand (leadsTo_body found)

/-- What an expansion leaves in the buffer, and how it ends. A macro that is not defined leaves
the buffer as it was. For a defined one, an expansion without error has added the evaluation of the
macro. An error is always a cycle, and the chain and what was added in front of it form a lasso of
the macro: the chain starts with the macro, has defined names only, and its last name is the only
one that occurs before; in the body of each name there is a reference to the next one behind
fragments that stand for texts, and these texts, body after body, are what was added. -/
theorem evaluateInto_report (table : MacroTable) (root buffer : Text) :
    (root ∉ table.names →
      table.evaluateInto root buffer = ⟨buffer, some (.rootNotFound root)⟩) ∧
    (root ∈ table.names → ∀ after,
      (table.evaluateInto root buffer = ⟨after, none⟩ ↔
        ∃ text, table.evaluate root = .ok text ∧ after = buffer ++ text) ∧
      ∀ error, table.evaluateInto root buffer = ⟨after, some error⟩ ↔
        ∃ chain text, error = .cycle chain ∧ after = buffer ++ text ∧
          table.Lasso root chain text) := by
  refine ⟨fun absent => ?_, fun isDefined after => ?_⟩
  · simp only [evaluateInto, get?_eq_none_iff.mpr absent]
  obtain ⟨body, found⟩ := exists_get?_iff.mpr isDefined
  rw [evaluate_of_get? found]
  simp only [evaluateInto, found, ← expand_eq_cycle_iff found]
  obtain ⟨text, _ | chain⟩ := table.expand [root] body
  · simp [eq_comm]
  · simp [eq_comm, and_comm]

/-- The root refers to a macro that can be evaluated, and behind it to one that leads into a loop.
The loop does not go through the root, and adds to the buffer up to where it closes. -/
theorem evaluateInto_report_loop_behind_root :
    let table := ofEvents
      [.opening .root ['*'], .passage ['a'], .reference ['x'], .reference ['y'], .closing,
        .opening .plain ['x'], .passage ['b'], .closing,
        .opening .plain ['y'], .passage ['c'], .reference ['z'], .closing,
        .opening .plain ['z'], .reference ['x'], .reference ['y'], .passage ['d'], .closing]
    table.evaluateInto ['*'] ['0'] =
        ⟨['0', 'a', 'b', 'c', 'b'], some (.cycle [['*'], ['y'], ['z'], ['y']])⟩ ∧
      table.Lasso ['*'] [['*'], ['y'], ['z'], ['y']] ['a', 'b', 'c', 'b'] ∧
      table.evaluateInto ['u'] ['0'] = ⟨['0'], some (.rootNotFound ['u'])⟩ ∧
      ∃ text, table.evaluate ['x'] = .ok text ∧ ['0', 'b'] = ['0'] ++ text := by
  intro table
  have built : table = ⟨[(['*'], #[.literal ['a'], .reference ['x'], .reference ['y']]),
      (['x'], #[.literal ['b']]), (['y'], #[.literal ['c'], .reference ['z']]),
      (['z'], #[.reference ['x'], .reference ['y'], .literal ['d']])]⟩ := by decide
  have fails : table.evaluateInto ['*'] ['0'] =
      ⟨['0', 'a', 'b', 'c', 'b'], some (.cycle [['*'], ['y'], ['z'], ['y']])⟩ := by
    rw [built]
    cbv
  have succeeds : table.evaluateInto ['x'] ['0'] = ⟨['0', 'b'], none⟩ := by rw [built]; cbv
  obtain ⟨_, reportRoot⟩ := evaluateInto_report table ['*'] ['0']
  obtain ⟨_, reportPart⟩ := evaluateInto_report table ['x'] ['0']
  obtain ⟨reportAbsent, _⟩ := evaluateInto_report table ['u'] ['0']
  obtain ⟨chain, text, sameChain, sameText, lasso⟩ := ((reportRoot (by decide) _).2 _).mp fails
  obtain rfl := ExpansionError.cycle.inj sameChain
  obtain rfl := (List.cons.inj sameText).2
  exact ⟨fails, lasso, reportAbsent (by decide), (reportPart (by decide) _).1.mp succeeds⟩

end MacroTable

end Literate
