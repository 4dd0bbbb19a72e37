/-
This file expands macros. The fragments of a macro are written out in order, and a
reference to a defined macro is replaced by that macro's own expansion; a reference
to an undefined one is written as it stands in a document. The chain of the names
that are being expanded is kept, and a name that would be entered again ends the
expansion with that chain. What was produced up to there is not lost.

The chain never holds a name twice and only defined names, so the number of defined
names outside of the chain falls at every entry, and expansion ends on every table.
-/

import Literate.MacroTable

namespace Literate

/-- Why a macro could not be expanded. -/
inductive ExpansionError where
  /-- The macro that was asked for is not defined. -/
  | rootNotFound (name : Text)
  /-- References lead from a macro back to itself; the last name of the chain occurs in it
  before. -/
  | cycle (chain : List Text)
  deriving DecidableEq

/-- The message of an expansion error. -/
def ExpansionError.message : ExpansionError → Text
  | .rootNotFound name =>
    Text.ofString "root node \x27" ++ name ++ Text.ofString "\x27 not found in document"
  | .cycle chain =>
    Text.ofString "macro references form a cycle: " ++ Text.join (Text.ofString " -> ") chain

/-- What expanding fragments produced: the text, and the chain of a cycle if one was met. -/
structure Expansion where
  text : Text
  cycle : Option (List Text)
  deriving DecidableEq

/-- An expansion with text in front of it. -/
def Expansion.after (earlier : Text) (expansion : Expansion) : Expansion :=
  { expansion with text := earlier ++ expansion.text }

namespace MacroTable

/-! ### The names outside of a chain -/

/-- The number of entries whose names are not in a chain. -/
def outside (table : MacroTable) (chain : List Text) : Nat :=
  table.names.countP fun name => name ∉ chain

theorem mem_names_of_get? {table : MacroTable} {name : Text} {body : List Fragment}
    (defined : table.get? name = some body) : name ∈ table.names := by
  obtain ⟨index, located, _⟩ := Option.bind_eq_some_iff.mp defined
  obtain ⟨bound, same, _⟩ := List.findIdx?_eq_some_iff_getElem.mp located
  exact List.mem_map.mpr ⟨table.entries[index], List.getElem_mem bound, of_decide_eq_true same⟩

theorem outside_append_lt {table : MacroTable} {chain : List Text} {name : Text}
    (defined : name ∈ table.names) (fresh : name ∉ chain) :
    table.outside (chain ++ [name]) < table.outside chain := by
  unfold outside
  generalize table.names = names at defined
  have weaker : ∀ others : List Text,
      (others.countP fun other => decide (other ∉ chain ++ [name])) ≤
        others.countP fun other => decide (other ∉ chain) := by
    intro others
    refine List.countP_mono_left fun other _ away => ?_
    simp only [decide_eq_true_eq, List.mem_append] at away ⊢
    exact fun member => away (Or.inl member)
  induction names with
  | nil => cases defined
  | cons first rest inductionHypothesis =>
    rw [List.countP_cons, List.countP_cons]
    by_cases same : first = name
    · subst same
      have bound := weaker rest
      have entered : decide (first ∉ chain ++ [first]) = false := by simp
      rw [entered, decide_eq_true fresh, if_pos rfl, if_neg Bool.false_ne_true]
      omega
    · have later : name ∈ rest := (List.mem_cons.mp defined).resolve_left (Ne.symm same)
      have bound := inductionHypothesis later
      have kept : decide (first ∉ chain ++ [name]) = decide (first ∉ chain) := by
        simp [same]
      rw [kept]
      omega

/-! ### Expansion -/

/-- Expands fragments while the names of a chain are being expanded. -/
def expand (table : MacroTable) (chain : List Text) (fragments : List Fragment) : Expansion :=
  match fragments with
  | [] => ⟨[], none⟩
  | .literal text :: rest => (table.expand chain rest).after text
  | .reference name :: rest =>
    match _ : table.get? name with
    | none => (table.expand chain rest).after (referenceSpelling name)
    | some body =>
      if _ : name ∈ chain then ⟨[], some (chain ++ [name])⟩
      else
        let inner := table.expand (chain ++ [name]) body
        match inner.cycle with
        | some _ => inner
        | none => (table.expand chain rest).after inner.text
  termination_by (table.outside chain, fragments.length)
  decreasing_by
    · exact Prod.Lex.right _ (Nat.lt_succ_self _)
    · exact Prod.Lex.right _ (Nat.lt_succ_self _)
    · exact Prod.Lex.left _ _ (outside_append_lt (mem_names_of_get? ‹_›) ‹_›)
    · exact Prod.Lex.right _ (Nat.lt_succ_self _)

/-- What expanding a macro leaves in a buffer, and how it ended. -/
structure Evaluation where
  buffer : Text
  error : Option ExpansionError
  deriving DecidableEq

/-- Expands a macro at the end of a buffer. A macro that is not defined leaves the buffer as it
was; a cycle leaves what was produced before it was met. -/
def evaluateInto (table : MacroTable) (name : Text) (buffer : Text) : Evaluation :=
  match table.get? name with
  | none => ⟨buffer, some (.rootNotFound name)⟩
  | some body =>
    let expansion := table.expand [name] body
    ⟨buffer ++ expansion.text, expansion.cycle.map .cycle⟩

/-- The expansion of a macro. -/
def evaluate (table : MacroTable) (name : Text) : Except ExpansionError Text :=
  let evaluation := table.evaluateInto name []
  match evaluation.error with
  | none => .ok evaluation.buffer
  | some error => .error error

/-- The expansion of the root that is given, or of the root macro. -/
def tangle (table : MacroTable) (root : Option Text) : Except ExpansionError Text :=
  table.evaluate (root.getD rootName)

end MacroTable

end Literate
