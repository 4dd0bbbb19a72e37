/-
This file says what a table of macros holds when events have built it. From an opening
on, until the next opening or closing, the body of one name is open; a passage or a
reference that happens meanwhile is a fragment of that name. A builder knows the open
body by its place in the table and not by its name, and a name keeps its place when
others are added behind it. So the names of the table are those that were opened, in
the order of their first openings, and each name has the fragments that happened while
its bodies were open, however these are split and mixed with others.
-/

import Literate.Proofs.Tables

namespace Literate

/-! ### Fragments among events -/

namespace Event

/-- The name of the body that an event opens. -/
def openedName? : Event → Option Text
  | .opening _ name => some name
  | _ => none

/-- The fragment that an event is if a body is open. -/
def fragment? : Event → Option Fragment
  | .passage text => some (.literal text)
  | .reference name => some (.reference name)
  | _ => none

/-- The name of the body that is open after an event. -/
def openAfter (current : Option Text) : Event → Option Text
  | .opening _ name => some name
  | .closing => none
  | _ => current

/-- The fragments of one name among events that start in the given open body. -/
def fragmentsOf (name : Text) : Option Text → List Event → List Fragment
  | _, [] => []
  | current, event :: events =>
    (if current = some name then event.fragment?.toList else []) ++
      fragmentsOf name (openAfter current event) events

theorem fragmentsOf_append (name : Text) (current : Option Text) (before events : List Event) :
    fragmentsOf name current (before ++ events) =
      fragmentsOf name current before ++
        fragmentsOf name (before.foldl openAfter current) events := by
  induction before generalizing current with
  | nil => rfl
  | cons event before inductionHypothesis =>
    rw [List.cons_append, fragmentsOf, inductionHypothesis, fragmentsOf, List.append_assoc,
      List.foldl_cons]

end Event

namespace MacroTable

/-! ### Places and fragments -/

/-- A fragment is added to the macro at its place and to no other. -/
theorem get?_push {table : MacroTable} {index : Nat} {opened : Text}
    (located : table.indexOf? opened = some index) (fragment : Fragment) (name : Text) :
    ((table.push index fragment).get? name).getD [] =
      (table.get? name).getD [] ++ if opened = name then [fragment] else [] := by
  obtain ⟨bound, isOpened, _⟩ := List.findIdx?_eq_some_iff_getElem.mp located
  unfold get?
  rw [indexOf?_push]
  cases found : table.indexOf? name with
  | none =>
    have other : opened ≠ name := by
      rintro rfl
      cases located.symm.trans found
    simp [other]
  | some place =>
    obtain ⟨placeBound, isName, _⟩ := List.findIdx?_eq_some_iff_getElem.mp found
    simp only [Option.bind_some, push, List.getElem?_modify, List.getElem?_eq_getElem placeBound]
    by_cases same : opened = name
    · subst same
      cases located.symm.trans found
      simp
    · -- The entry at a place has one name, so the two names have different places.
      have elsewhere : index ≠ place := by
        rintro rfl
        exact same ((of_decide_eq_true isOpened).symm.trans (of_decide_eq_true isName))
      simp [elsewhere, same]

theorem get?_enter (table : MacroTable) (entered name : Text) :
    ((table.enter entered).get? name).getD [] = (table.get? name).getD [] := by
  rw [get?_eq_find?, get?_eq_find?, enter, List.find?_append]
  cases table.entries.find? fun entry => entry.1 = name with
  | none => by_cases same : entered = name <;> simp [same]
  | some entry => rfl

/-! ### What a builder holds -/

namespace Builder

/-- A builder in order holds the names that were opened, in order of first occurrence, the place of
the name that is open now, and the fragments of every name. -/
structure Holds (builder : Builder) (opened : List Text) (current : Option Text)
    (fragments : Text → List Fragment) : Prop where
  wellFormed : builder.WellFormed
  names : builder.table.names = opened.eraseDups
  place : Option.Rel (fun index name => builder.table.indexOf? name = some index)
    builder.openAt current
  fragments : ∀ name, (builder.table.get? name).getD [] = fragments name

variable {builder : Builder} {opened : List Text} {current : Option Text}
  {fragments : Text → List Fragment}

theorem holds_start : start.Holds [] none fun _ => [] :=
  ⟨wellFormed_start, rfl, .none, fun _ => rfl⟩

theorem Holds.contribute (holds : builder.Holds opened current fragments) (fragment : Fragment) :
    (builder.contribute fragment).Holds opened current fun name =>
      fragments name ++ if current = some name then [fragment] else [] := by
  have inOrder := holds.wellFormed.contribute fragment
  obtain ⟨table, places, openAt⟩ := builder
  obtain ⟨_, names, place, held⟩ := holds
  cases place with
  | none => exact ⟨inOrder, names, .none, fun name => (held name).trans (List.append_nil _).symm⟩
  | @some index name located =>
    refine ⟨inOrder, (names_push table index fragment).trans names, .some ?_, fun other => ?_⟩
    · exact (indexOf?_push table index fragment name).trans located
    · rw [← held]
      simp only [Option.some.injEq]
      exact get?_push located fragment other

theorem Holds.define (holds : builder.Holds opened current fragments) (name : Text) :
    (builder.define name).Holds (opened ++ [name]) (some name) fragments := by
  have inOrder := holds.wellFormed.define name
  have isOpened : name ∈ opened ↔ name ∈ builder.table.names := by
    rw [holds.names, List.mem_eraseDups]
  obtain ⟨index, located, isDefined⟩ | ⟨unlocated, isDefined⟩ := holds.wellFormed.define_cases name
  · rw [isDefined] at inOrder ⊢
    have known : name ∈ opened := isOpened.mpr (mem_names_of_indexOf? located)
    refine ⟨inOrder, ?_, .some located, holds.fragments⟩
    rw [List.eraseDups_append]
    simpa [List.removeAll, known] using holds.names
  · rw [isDefined] at inOrder ⊢
    have fresh : name ∉ opened := mt isOpened.mp (indexOf?_eq_none_iff.mp unlocated)
    refine ⟨inOrder, ?_, .some ?_, fun other => ?_⟩
    · rw [names_enter, holds.names, List.eraseDups_append]
      simp [List.removeAll, fresh, List.eraseDups_cons]
    · rw [indexOf?_enter, unlocated, if_pos rfl, Option.none_or]
    · exact (get?_enter _ _ _).trans (holds.fragments other)

/-- One event keeps what a builder holds in step with what was said. -/
theorem Holds.observe (holds : builder.Holds opened current fragments) (event : Event) :
    (builder.observe event).Holds (opened ++ event.openedName?.toList)
      (Event.openAfter current event) fun name =>
        fragments name ++ if current = some name then event.fragment?.toList else [] := by
  have noName : opened ++ [] = opened := List.append_nil opened
  have noFragment : (fun name => fragments name ++ if current = some name then [] else []) =
      fragments := by
    funext name
    rw [ite_self, List.append_nil]
  cases event with
  | passage text => exact noName.symm ▸ holds.contribute (.literal text)
  | opening kind name => exact noFragment.symm ▸ holds.define name
  | closing =>
    exact noName.symm ▸ noFragment.symm ▸
      ⟨holds.wellFormed.observe .closing, holds.names, .none, holds.fragments⟩
  | reference name => exact noName.symm ▸ holds.contribute (.reference name)
  | substitution made => exact noName.symm ▸ noFragment.symm ▸ holds
  | directive given => exact noName.symm ▸ noFragment.symm ▸ holds

/-- A list of events keeps what a builder holds in step with what was said. -/
theorem Holds.observeAll (holds : builder.Holds opened current fragments) (events : List Event) :
    (events.foldl Builder.observe builder).Holds (opened ++ events.filterMap Event.openedName?)
      (events.foldl Event.openAfter current) fun name =>
        fragments name ++ Event.fragmentsOf name current events := by
  induction events generalizing builder opened current fragments with
  | nil => simpa [Event.fragmentsOf] using holds
  | cons event events inductionHypothesis =>
    have names : (event :: events).filterMap Event.openedName? =
        event.openedName?.toList ++ events.filterMap Event.openedName? := by
      rw [List.filterMap_cons]
      cases event.openedName? <;> rfl
    have next := inductionHypothesis (holds.observe event)
    rw [List.append_assoc, ← names] at next
    simp only [List.append_assoc] at next
    exact next

end Builder

/-- The table that events have built has the names that were opened, in the order of their first
openings, and under each name the fragments that happened while its bodies were open. -/
theorem get?_ofEvents (events : List Event) :
    (ofEvents events).names = (events.filterMap Event.openedName?).eraseDups ∧
      ∀ name, ((ofEvents events).get? name).getD [] = Event.fragmentsOf name none events := by
  obtain ⟨_, names, _, fragments⟩ := Builder.holds_start.observeAll events
  exact ⟨names, fragments⟩

/-- A name that was opened has its fragments, and any other name is not defined. -/
theorem get?_ofEvents_eq (events : List Event) (name : Text) :
    (ofEvents events).get? name =
      if name ∈ events.filterMap Event.openedName? then some (Event.fragmentsOf name none events)
      else none := by
  obtain ⟨names, fragments⟩ := get?_ofEvents events
  have isDefined : name ∈ (ofEvents events).names ↔ name ∈ events.filterMap Event.openedName? := by
    rw [names, List.mem_eraseDups]
  split
  · rename_i opened
    obtain ⟨body, found⟩ := exists_get?_iff.mpr (isDefined.mpr opened)
    rw [found, ← fragments name, found, Option.getD_some]
  · rename_i unopened
    exact get?_eq_none_iff.mpr fun member => unopened (isDefined.mp member)

/-- What a table answers to a name depends on what happened in the bodies of that name only. -/
theorem get?_ofEvents_congr {first second : List Event} {name : Text}
    (opened : name ∈ first.filterMap Event.openedName? ↔
      name ∈ second.filterMap Event.openedName?)
    (fragments : Event.fragmentsOf name none first = Event.fragmentsOf name none second) :
    (ofEvents first).get? name = (ofEvents second).get? name := by
  simp only [get?_ofEvents_eq, opened, fragments]

end MacroTable

end Literate
