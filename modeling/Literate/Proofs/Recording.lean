/-
This file proves that a builder keeps its table and its index in order and records exactly
what happens in open bodies, whatever the order of the events: closings without openings,
openings in open bodies, text and references anywhere.

What is recorded is said by looking back from an event: of all events in front of it that
open or close a body, the most recent one decides whether a body is open, and of which
name. The builder looks forward instead and keeps the place of the open body. Both agree
after every event, and the place is always one of the table, so that no fragment is lost.

A table only grows. One event leaves it as it was, enters one name behind the others, or
adds one fragment behind those of one name. So what was recorded once is never changed,
and a name keeps its place.
-/

import Literate.Proofs.Bodies
import Mathlib.Data.List.Induction

namespace Literate

/-! ### Open bodies, looking back -/

namespace Event

/-- Whether an event opens or closes a body. -/
def isBoundary : Event → Bool
  | .opening _ _ => true
  | .closing => true
  | _ => false

/-- The name of the body that is open behind events: the most recent one of them that opens or
closes a body opens one of that name. -/
def openName? (events : List Event) : Option Text :=
  (events.reverse.find? isBoundary).bind openedName?

/-- The fragments that happen while a body of the given name is open, in order. -/
def recorded (name : Text) (events : List Event) : List Fragment :=
  events.zipIdx.filterMap fun (event, place) =>
    if openName? (events.take place) = some name then event.fragment? else none

theorem openName?_concat (events : List Event) (event : Event) :
    openName? (events ++ [event]) = openAfter (openName? events) event := by
  rw [openName?, List.reverse_concat, List.find?_cons]
  cases event <;> rfl

/-- Looking back from the last event and looking forward from the first give the same open body. -/
theorem openName?_eq_foldl (events : List Event) :
    openName? events = events.foldl openAfter none := by
  induction events using List.reverseRecOn with
  | nil => rfl
  | append_singleton events event inductionHypothesis =>
    rw [openName?_concat, List.foldl_concat, inductionHypothesis]

theorem recorded_concat (name : Text) (events : List Event) (event : Event) :
    recorded name (events ++ [event]) =
      recorded name events ++
        if openName? events = some name then event.fragment?.toList else [] := by
  have earlier : ∀ pair ∈ events.zipIdx,
      (if openName? ((events ++ [event]).take pair.2) = some name then pair.1.fragment?
        else none) =
      if openName? (events.take pair.2) = some name then pair.1.fragment? else none := by
    rintro ⟨other, place⟩ member
    obtain ⟨_, bound, _⟩ := List.mem_zipIdx member
    rw [List.take_append_of_le_length (by omega)]
  rw [recorded, List.zipIdx_append, List.filterMap_append, List.filterMap_congr earlier]
  by_cases isOpen : openName? events = some name
  · cases found : event.fragment? <;> simp [recorded, isOpen, found]
  · simp [recorded, isOpen]

/-- What is recorded looking back is what is collected looking forward. -/
theorem recorded_eq_fragmentsOf (name : Text) (events : List Event) :
    recorded name events = fragmentsOf name none events := by
  induction events using List.reverseRecOn with
  | nil => rfl
  | append_singleton events event inductionHypothesis =>
    rw [recorded_concat, fragmentsOf_append, inductionHypothesis, openName?_eq_foldl, fragmentsOf,
      fragmentsOf, List.append_nil]

end Event

namespace MacroTable

/-! ### Tables that grow -/

/-- What a table can become by one event: what it was, or itself with a new name behind the
others, or with one more fragment behind those of one name. -/
inductive Grows (table : MacroTable) : MacroTable → Prop where
  | unchanged : Grows table table
  | entered {name : Text} : name ∉ table.names → Grows table (table.enter name)
  | extended {before behind : List (Text × Array Fragment)} {name : Text}
      {fragments : Array Fragment} (fragment : Fragment) :
      table.entries = before ++ (name, fragments) :: behind →
      Grows table ⟨before ++ (name, fragments.push fragment) :: behind⟩

theorem grows_push {table : MacroTable} {index : Nat} (inRange : index < table.size)
    (fragment : Fragment) : table.Grows (table.push index fragment) := by
  have bound : index < table.entries.length := inRange
  have split : table.entries =
      table.entries.take index ++ table.entries[index] :: table.entries.drop (index + 1) := by
    rw [List.getElem_cons_drop, List.take_append_drop]
  rw [push, List.modify_eq_take_cons_drop bound]
  exact .extended fragment split

/-- What was recorded is kept, with what is recorded later behind it. -/
theorem get?_ofEvents_append (events later : List Event) (name : Text) :
    ((ofEvents events).get? name).getD [] <+:
      ((ofEvents (events ++ later)).get? name).getD [] := by
  rw [(get?_ofEvents events).2, (get?_ofEvents (events ++ later)).2, Event.fragmentsOf_append]
  exact List.prefix_append _ _

/-! ### Builders in order -/

theorem indexOf?_eq_some_iff {table : MacroTable} (distinct : table.names.Nodup) {name : Text}
    {index : Nat} :
    table.indexOf? name = some index ↔
      ∃ fragments, table.entries[index]? = some (name, fragments) := by
  constructor
  · intro located
    obtain ⟨bound, isName, _⟩ := List.findIdx?_eq_some_iff_getElem.mp located
    refine ⟨table.entries[index].2, List.getElem?_eq_some_iff.mpr ⟨bound, ?_⟩⟩
    exact Prod.ext (of_decide_eq_true isName) rfl
  · rintro ⟨fragments, found⟩
    obtain ⟨bound, same⟩ := List.getElem?_eq_some_iff.mp found
    refine List.findIdx?_eq_some_iff_getElem.mpr ⟨bound, by simp [same], ?_⟩
    -- An earlier place with the same name would be a second one.
    intro earlier before isName
    have within : index < table.names.length := by rwa [names, List.length_map]
    refine List.nodup_iff_getElem?_ne_getElem?.mp distinct earlier index before within ?_
    have earlierName : table.entries[earlier].1 = name := of_decide_eq_true isName
    simp only [names, List.getElem?_map, found, Option.map_some,
      List.getElem?_eq_getElem (Nat.lt_trans before bound), earlierName]

namespace Builder

/-- The index has the place of every entry under its name, and nothing else. -/
theorem WellFormed.lookup_eq_some_iff {builder : Builder} (wellFormed : builder.WellFormed)
    {name : Text} {index : Nat} :
    builder.places.lookup name = some index ↔
      ∃ fragments, builder.table.entries[index]? = some (name, fragments) := by
  rw [wellFormed.indexed, indexOf?_eq_some_iff wellFormed.distinct]

theorem Holds.openAt_eq {builder : Builder} {opened : List Text} {current : Option Text}
    {fragments : Text → List Fragment} (holds : builder.Holds opened current fragments) :
    builder.openAt = current.bind builder.table.indexOf? := by
  have place := holds.place
  generalize builder.openAt = openAt at place
  cases place with
  | none => rfl
  | some located => exact located.symm

theorem grows_define {builder : Builder} (wellFormed : builder.WellFormed) (name : Text) :
    builder.table.Grows (builder.define name).table := by
  obtain ⟨index, _, isDefined⟩ | ⟨unlocated, isDefined⟩ := wellFormed.define_cases name
  · rw [isDefined]
    exact .unchanged
  · rw [isDefined]
    exact .entered (indexOf?_eq_none_iff.mp unlocated)

theorem grows_observe {builder : Builder} (wellFormed : builder.WellFormed) (event : Event) :
    builder.table.Grows (builder.observe event).table := by
  have contributed (fragment : Fragment) :
      builder.table.Grows (builder.contribute fragment).table := by
    unfold contribute
    split
    · exact grows_push (wellFormed.inRange _ ‹_›) fragment
    · exact .unchanged
  cases event with
  | passage text => exact contributed (.literal text)
  | opening kind name => exact grows_define wellFormed name
  | reference name => exact contributed (.reference name)
  | closing | substitution | directive => exact .unchanged

end Builder

/-! ### What is recorded -/

/-- A builder keeps its table in order and records exactly what happens in open bodies, for every
list of events. The names of the table are distinct, the index has the place of each entry under
its name and nothing else, and the open body has its place in the table: that of the name that
the most recent opening or closing opens, if it opens one. The names are those of the openings in
order of first occurrence. Each has, in order, one fragment for each passage and each reference
in front of which the most recent opening or closing opens that name. Every event leaves the table
as it was, enters one name, or adds one fragment behind those of one name, and so no fragment is
ever changed. -/
theorem observe_records (events : List Event) :
    let builder := events.foldl Builder.observe .start
    builder.WellFormed ∧
      (∀ name index, builder.places.lookup name = some index ↔
        ∃ fragments, builder.table.entries[index]? = some (name, fragments)) ∧
      builder.openAt = (Event.openName? events).bind builder.table.indexOf? ∧
      builder.table.names = (events.filterMap Event.openedName?).eraseDups ∧
      (∀ name, builder.table.get? name =
        if name ∈ events.filterMap Event.openedName? then some (Event.recorded name events)
        else none) ∧
      (∀ event, builder.table.Grows (builder.observe event).table) ∧
      ∀ later name, (builder.table.get? name).getD [] <+:
        ((ofEvents (events ++ later)).get? name).getD [] := by
  intro builder
  have holds := Builder.holds_start.observeAll events
  have wellFormed : builder.WellFormed := holds.wellFormed
  have names : builder.table.names = (events.filterMap Event.openedName?).eraseDups := holds.names
  refine ⟨wellFormed, fun name index => wellFormed.lookup_eq_some_iff, ?_, names, fun name => ?_,
    Builder.grows_observe wellFormed, get?_ofEvents_append events⟩
  · rw [Event.openName?_eq_foldl]
    exact holds.openAt_eq
  · rw [Event.recorded_eq_fragmentsOf]
    exact get?_ofEvents_eq events name

-- A closing without an opening, an opening in an open body, and a body that is opened again and
-- never closed.
example : (ofEvents [.closing, .passage ['0'], .opening .plain ['a'], .passage ['1'],
      .opening .file ['b'], .reference ['a'], .closing, .passage ['2'], .opening .plain ['a'],
      .passage ['3']]).entries =
    [(['a'], #[.literal ['1'], .literal ['3']]), (['b'], #[.reference ['a']])] := by decide

end MacroTable

end Literate
