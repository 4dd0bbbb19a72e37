/-
This file proves that the order of the bodies of different macros does not matter. A
table keeps its names in the order in which they were first opened, and finds a name
by its place; the graph of its references is built up in that order too. But a name is
only ever asked for its fragments. Expansion asks for nothing else, and the graph is
the only one with the names as its nodes and the references as its dependencies. So
two tables with the same fragments under every name cannot be told apart except by the
order of their names.

The fragments of a name are what happens in its bodies, one body after the other.
They stay the same when two bodies of different names change places, and when a body
is cut into several that follow one another.
-/

import Literate.Proofs.Building
import Literate.Proofs.Locality
import Literate.Proofs.Meaning

namespace Literate

namespace MacroTable

variable {table other : MacroTable}

/-! ### The graph shows names and references only -/

/-- The graph of a table is built by entering its names and then its references. -/
theorem dependencyGraph_eq_ofOperations (table : MacroTable) :
    table.dependencyGraph = .ofOperations (table.names.map .node ++
      table.references.map fun pair => .edge pair.1 pair.2) := by
  rw [dependencyGraph_eq, Graph.ofOperations, List.foldl_append, List.foldl_map, List.foldl_map]
  rfl

theorem mem_names_congr (same : ∀ name, table.get? name = other.get? name) (name : Text) :
    name ∈ table.names ↔ name ∈ other.names := by
  rw [← exists_get?_iff, ← exists_get?_iff, same name]

theorem refers_congr (same : ∀ name, table.get? name = other.get? name) :
    table.Refers = other.Refers := by
  funext name target
  simp only [Refers, same name, mem_names_congr same target]

theorem dependencyGraph_congr (distinct : table.names.Nodup) (distinctOther : other.names.Nodup)
    (same : ∀ name, table.get? name = other.get? name) :
    table.dependencyGraph = other.dependencyGraph := by
  have canonical (table : MacroTable) : table.dependencyGraph.Canonical := by
    rw [dependencyGraph_eq_ofOperations]
    exact Graph.canonical_ofOperations _
  obtain ⟨_, nodes, depends⟩ := dependencyGraph_spec distinct
  obtain ⟨_, nodesOther, dependsOther⟩ := dependencyGraph_spec distinctOther
  refine (canonical table).eq_of_depends (canonical other) (fun name => ?_) ?_
  · rw [nodes, nodesOther, mem_names_congr same]
  · rw [depends, dependsOther, refers_congr same]

/-! ### Tables that differ in the order of their names -/

/-- Two tables differ in the order of their names, if at all: every name has the same fragments in
both, comes to the same end and leaves the same text behind when it is expanded, and the two have
one graph and one order of expansion. -/
structure Alike (table other : MacroTable) : Prop where
  names : table.names.Perm other.names
  fragments : ∀ name, table.get? name = other.get? name
  evaluateInto : ∀ name buffer, table.evaluateInto name buffer = other.evaluateInto name buffer
  dependencyGraph : table.dependencyGraph = other.dependencyGraph
  expansionOrder? : table.expansionOrder? = other.expansionOrder?

theorem alike_of_get? (distinct : table.names.Nodup) (distinctOther : other.names.Nodup)
    (same : ∀ name, table.get? name = other.get? name) : table.Alike other where
  names := (List.perm_ext_iff_of_nodup distinct distinctOther).mpr (mem_names_congr same)
  fragments := same
  evaluateInto _ buffer := evaluateInto_of_reaches (fun name _ => same name) buffer
  dependencyGraph := dependencyGraph_congr distinct distinctOther same
  expansionOrder? := congrArg Graph.sort? (dependencyGraph_congr distinct distinctOther same)

end MacroTable

/-! ### Bodies among events -/

namespace Event

/-- A body with what happens inside. -/
def body (kind : MacroKind) (name : Text) (inner : List Event) : List Event :=
  .opening kind name :: inner ++ [.closing]

/-- Events that may happen in a scope and do not lead out of it. -/
def Within (scope : Scope) (events : List Event) : Prop :=
  ∀ event ∈ events, Leads scope event scope

theorem fragmentsOf_within {scope : Scope} {inner : List Event} (within : Within scope inner)
    (name : Text) (current : Option Text) (events : List Event) :
    fragmentsOf name current (inner ++ events) =
      (if current = some name then inner.filterMap fragment? else []) ++
        fragmentsOf name current events := by
  induction inner with
  | nil => simp
  | cons event inner inductionHypothesis =>
    obtain ⟨leads, withinToo⟩ := List.forall_mem_cons.mp within
    have stays : openAfter current event = current := by
      cases leads <;> rfl
    rw [List.cons_append, fragmentsOf, stays, inductionHypothesis withinToo, List.filterMap_cons]
    by_cases same : current = some name
    · cases event.fragment? <;> simp [same]
    · simp [same]

/-- A body adds what happens in it to its own name and nothing to any other, and whatever was open
before it is closed behind it. -/
theorem fragmentsOf_body {inner : List Event} (within : Within .inside inner) (kind : MacroKind)
    (opened name : Text) (current : Option Text) (events : List Event) :
    fragmentsOf name current (body kind opened inner ++ events) =
      (if opened = name then inner.filterMap fragment? else []) ++
        fragmentsOf name none events := by
  have shape : body kind opened inner ++ events =
      .opening kind opened :: (inner ++ .closing :: events) := by
    simp [body]
  rw [shape, fragmentsOf, openAfter, fragmentsOf_within within, fragmentsOf, openAfter]
  simp [fragment?]

/-- Bodies of one name that follow one another add what happens in all of them. -/
theorem fragmentsOf_bodies {parts : List (MacroKind × List Event)}
    (within : ∀ part ∈ parts, Within .inside part.2) (opened name : Text) (events : List Event) :
    fragmentsOf name none ((parts.flatMap fun part => body part.1 opened part.2) ++ events) =
      (if opened = name then (parts.flatMap Prod.snd).filterMap fragment? else []) ++
        fragmentsOf name none events := by
  induction parts with
  | nil => simp
  | cons part parts inductionHypothesis =>
    obtain ⟨first, rest⟩ := List.forall_mem_cons.mp within
    rw [List.flatMap_cons, List.append_assoc, fragmentsOf_body first, inductionHypothesis rest,
      List.flatMap_cons, List.filterMap_append]
    by_cases same : opened = name <;> simp [same]

theorem mem_opened_body {kind : MacroKind} {name opened : Text} {inner : List Event}
    (within : Within .inside inner) :
    opened ∈ (body kind name inner).filterMap openedName? ↔ opened = name := by
  have nothing : inner.filterMap openedName? = [] := by
    refine List.filterMap_eq_nil_iff.mpr fun event member => ?_
    cases within event member <;> rfl
  simp [body, openedName?, nothing]

end Event

/-! ### Documents that define the same macros -/

namespace MacroTable

theorem alike_ofEvents {first second : List Event}
    (opened : ∀ name, name ∈ first.filterMap Event.openedName? ↔
      name ∈ second.filterMap Event.openedName?)
    (fragments : ∀ name, Event.fragmentsOf name none first = Event.fragmentsOf name none second) :
    (ofEvents first).Alike (ofEvents second) :=
  alike_of_get? (nodup_names_ofEvents first) (nodup_names_ofEvents second) fun name =>
    get?_ofEvents_congr (opened name) (fragments name)

/-- What is put in the place of other events does not matter if it opens the same names and adds
the same fragments, whatever body is open in front of it. -/
theorem alike_of_replaced (before behind : List Event) {first second : List Event}
    (opened : ∀ name, name ∈ first.filterMap Event.openedName? ↔
      name ∈ second.filterMap Event.openedName?)
    (fragments : ∀ name current, Event.fragmentsOf name current (first ++ behind) =
      Event.fragmentsOf name current (second ++ behind)) :
    (ofEvents (before ++ first ++ behind)).Alike (ofEvents (before ++ second ++ behind)) := by
  refine alike_ofEvents (fun name => ?_) fun name => ?_
  · simp only [List.filterMap_append, List.mem_append, opened]
  · rw [List.append_assoc, List.append_assoc, Event.fragmentsOf_append name none before,
      Event.fragmentsOf_append name none before, fragments]

theorem alike_of_exchanged (before behind : List Event) {between inner more : List Event}
    {kind other : MacroKind} {name target : Text} (apart : name ≠ target)
    (within : Event.Within .inside inner) (withinToo : Event.Within .inside more)
    (outside : Event.Within .outside between) :
    let first := Event.body kind name inner
    let second := Event.body other target more
    (ofEvents (before ++ (first ++ between ++ second) ++ behind)).Alike
      (ofEvents (before ++ (second ++ between ++ first) ++ behind)) := by
  intro first second
  refine alike_of_replaced before behind (fun opened => ?_) fun opened current => ?_
  · simp only [List.filterMap_append, List.mem_append]
    tauto
  · simp only [first, second, List.append_assoc, Event.fragmentsOf_body within,
      Event.fragmentsOf_body withinToo, Event.fragmentsOf_within outside]
    by_cases same : name = opened
    · have apartToo : target ≠ opened := same ▸ Ne.symm apart
      simp [apartToo]
    · simp [same]

theorem alike_of_cut (before behind : List Event) (kind : MacroKind) (name : Text)
    {parts : List (MacroKind × List Event)} (more : parts ≠ [])
    (within : ∀ part ∈ parts, Event.Within .inside part.2) :
    (ofEvents (before ++ Event.body kind name (parts.flatMap Prod.snd) ++ behind)).Alike
      (ofEvents (before ++ (parts.flatMap fun part => Event.body part.1 name part.2) ++
        behind)) := by
  have whole : Event.Within .inside (parts.flatMap Prod.snd) := by
    intro event member
    obtain ⟨part, isPart, inside⟩ := List.mem_flatMap.mp member
    exact within part isPart event inside
  refine alike_of_replaced before behind (fun opened => ?_) fun opened current => ?_
  · rw [Event.mem_opened_body whole, List.filterMap_flatMap, List.mem_flatMap]
    constructor
    · rintro rfl
      obtain ⟨part, isPart⟩ := List.exists_mem_of_ne_nil parts more
      exact ⟨part, isPart, (Event.mem_opened_body (within part isPart)).mpr rfl⟩
    · rintro ⟨part, isPart, isOpened⟩
      exact (Event.mem_opened_body (within part isPart)).mp isOpened
  · obtain ⟨first, rest, rfl⟩ := List.exists_cons_of_ne_nil more
    have isFirst := within first List.mem_cons_self
    rw [Event.fragmentsOf_body whole, ← Event.fragmentsOf_bodies within, List.flatMap_cons,
      List.append_assoc, Event.fragmentsOf_body isFirst, Event.fragmentsOf_body isFirst]

/-- The order of the bodies of different macros does not matter. Two lists of events that open the
same names, and in which the same text and the same references happen, in the same order, in the
bodies of each name, build tables that differ in the order of their names, if at all. So it makes
no other difference when two bodies of different names change places, or when a body is cut into
several that follow one another. -/
theorem ofEvents_alike :
    (∀ first second : List Event,
      (∀ name, name ∈ first.filterMap Event.openedName? ↔
        name ∈ second.filterMap Event.openedName?) →
      (∀ name, Event.fragmentsOf name none first = Event.fragmentsOf name none second) →
      (ofEvents first).Alike (ofEvents second)) ∧
    (∀ (before between behind inner more : List Event) (kind other : MacroKind)
      (name target : Text), name ≠ target → Event.Within .inside inner →
      Event.Within .inside more → Event.Within .outside between →
      let first := Event.body kind name inner
      let second := Event.body other target more
      (ofEvents (before ++ (first ++ between ++ second) ++ behind)).Alike
        (ofEvents (before ++ (second ++ between ++ first) ++ behind))) ∧
    ∀ (before behind : List Event) (kind : MacroKind) (name : Text)
      (parts : List (MacroKind × List Event)), parts ≠ [] →
      (∀ part ∈ parts, Event.Within .inside part.2) →
      (ofEvents (before ++ Event.body kind name (parts.flatMap Prod.snd) ++ behind)).Alike
        (ofEvents (before ++ (parts.flatMap fun part => Event.body part.1 name part.2) ++
          behind)) := by
  refine ⟨fun first second => alike_ofEvents, ?_, ?_⟩
  · intro before between behind inner more kind other name target apart within withinToo outside
    exact alike_of_exchanged before behind apart within withinToo outside
  · intro before behind kind name parts more within
    exact alike_of_cut before behind kind name more within

/-- Two macros refer to each other. Their bodies change places around the text between them, and
one of them is cut in two and marked as a file. A cycle is met on the same way, behind the same
text. -/
theorem ofEvents_alike_cycle :
    let first : List Event := Event.body .plain ['a'] [.passage ['1'], .reference ['b']] ++
      [.passage ['x']] ++ Event.body .plain ['b'] [.passage ['2'], .reference ['a']]
    let exchanged : List Event := Event.body .plain ['b'] [.passage ['2'], .reference ['a']] ++
      [.passage ['x']] ++ Event.body .plain ['a'] [.passage ['1'], .reference ['b']]
    let second : List Event := Event.body .file ['b'] [.passage ['2']] ++
      Event.body .plain ['b'] [.reference ['a']] ++ [.passage ['x']] ++
      Event.body .plain ['a'] [.passage ['1'], .reference ['b']]
    (ofEvents first).Alike (ofEvents exchanged) ∧ (ofEvents exchanged).Alike (ofEvents second) ∧
      (ofEvents first).Alike (ofEvents second) ∧
      (ofEvents second).evaluateInto ['a'] ['0'] =
        ⟨['0', '1', '2'], some (.cycle [['a'], ['b'], ['a']])⟩ := by
  intro first exchanged second
  obtain ⟨same, exchange, cut⟩ := ofEvents_alike
  have apart : (['a'] : Text) ≠ ['b'] := by decide
  have within (text name : Text) :
      Event.Within .inside [.passage text, .reference name] :=
    List.forall_mem_cons.mpr ⟨.passage _ text, List.forall_mem_singleton.mpr (.reference name)⟩
  have outside : Event.Within .outside [.passage ['x']] :=
    List.forall_mem_singleton.mpr (.passage _ _)
  have parts : ∀ part ∈ ([(.file, [.passage ['2']]), (.plain, [.reference ['a']])] :
      List (MacroKind × List Event)), Event.Within .inside part.2 :=
    List.forall_mem_cons.mpr ⟨List.forall_mem_singleton.mpr (.passage _ _),
      List.forall_mem_singleton.mpr (List.forall_mem_singleton.mpr (.reference _))⟩
  have built : ofEvents second = ⟨[(['b'], #[.literal ['2'], .reference ['a']]),
      (['a'], #[.literal ['1'], .reference ['b']])]⟩ := by decide
  refine ⟨exchange [] [.passage ['x']] [] _ _ .plain .plain _ _ apart (within ['1'] ['b'])
    (within ['2'] ['a']) outside, cut [] _ .plain ['b'] _ (by simp) parts,
    same first second (fun name => ?_) (fun name => ?_), by rw [built]; cbv⟩
  · show name ∈ [['a'], ['b']] ↔ name ∈ [['b'], ['b'], ['a']]
    simp only [List.mem_cons, List.not_mem_nil]
    tauto
  · by_cases isFirst : ['a'] = name
    · simp [first, second, ← isFirst, Event.body, Event.fragmentsOf, Event.openAfter,
        Event.fragment?]
    · simp [first, second, isFirst, Event.body, Event.fragmentsOf, Event.openAfter,
        Event.fragment?]

end MacroTable

end Literate
