/-
This file proves that a table of macros keeps its names apart and that a builder keeps
its index in step with it. A name that has a place is never entered again, and adding a
fragment leaves all names and places as they are; so the names of a table that events
have built are distinct, looking a name up finds the one entry that it has, and the
index has the place of that entry.
-/

import Literate.MacroTable.Expansion
import Mathlib.Data.List.Nodup

namespace Literate

namespace MacroTable

/-! ### Looking names up -/

theorem indexOf?_eq_none_iff {table : MacroTable} {name : Text} :
    table.indexOf? name = none ↔ name ∉ table.names := by
  rw [indexOf?, List.findIdx?_eq_none_iff, names, List.mem_map]
  constructor
  · rintro absent ⟨entry, member, rfl⟩
    exact absurd (absent entry member) (by simp)
  · intro absent entry member
    exact decide_eq_false fun same => absent ⟨entry, member, same⟩

theorem contains_iff {table : MacroTable} {name : Text} :
    table.contains name = true ↔ name ∈ table.names := by
  rw [contains, Option.isSome_iff_ne_none, Ne, indexOf?_eq_none_iff, not_not]

theorem get?_eq_find? (table : MacroTable) (name : Text) :
    table.get? name =
      (table.entries.find? fun entry => entry.1 = name).map fun entry => entry.2.toList := by
  unfold get? indexOf?
  induction table.entries with
  | nil => rfl
  | cons entry entries inductionHypothesis =>
    rw [List.findIdx?_cons, List.find?_cons]
    by_cases same : entry.1 = name
    · simp [same]
    · rw [if_neg (by simpa using same), decide_eq_false same, ← inductionHypothesis]
      rw [Option.bind_map]
      rfl

theorem exists_get?_iff {table : MacroTable} {name : Text} :
    (∃ body, table.get? name = some body) ↔ name ∈ table.names := by
  rw [get?_eq_find?, ← Option.isSome_iff_exists, Option.isSome_map, List.find?_isSome, names,
    List.mem_map]
  simp

theorem get?_eq_none_iff {table : MacroTable} {name : Text} :
    table.get? name = none ↔ name ∉ table.names := by
  rw [← exists_get?_iff, ← Option.isSome_iff_exists, Option.not_isSome_iff_eq_none]

theorem get?_of_mem {table : MacroTable} (distinct : table.names.Nodup)
    {entry : Text × Array Fragment} (member : entry ∈ table.entries) :
    table.get? entry.1 = some entry.2.toList := by
  obtain ⟨body, found⟩ := exists_get?_iff.mpr (List.mem_map_of_mem member)
  rw [found]
  rw [get?_eq_find?] at found
  obtain ⟨other, located, rfl⟩ := Option.map_eq_some_iff.mp found
  have sameName : other.1 = entry.1 := by simpa using List.find?_some located
  rw [List.inj_on_of_nodup_map distinct (List.mem_of_find?_eq_some located) member sameName]

/-! ### The names of a table and their places -/

theorem names_push (table : MacroTable) (index : Nat) (fragment : Fragment) :
    (table.push index fragment).names = table.names := by
  unfold names push
  refine List.ext_getElem? fun place => ?_
  rw [List.getElem?_map, List.getElem?_map, List.getElem?_modify]
  cases table.entries[place]? with
  | none => rfl
  | some entry => by_cases same : index = place <;> simp [same]

theorem names_enter (table : MacroTable) (name : Text) :
    (table.enter name).names = table.names ++ [name] := List.map_append

theorem size_push (table : MacroTable) (index : Nat) (fragment : Fragment) :
    (table.push index fragment).size = table.size := List.length_modify _ _ _

theorem size_enter (table : MacroTable) (name : Text) :
    (table.enter name).size = table.size + 1 := List.length_append

theorem indexOf?_eq_findIdx? (table : MacroTable) (name : Text) :
    table.indexOf? name = table.names.findIdx? fun other => other = name := by
  rw [names, List.findIdx?_map]
  rfl

theorem indexOf?_push (table : MacroTable) (index : Nat) (fragment : Fragment) (name : Text) :
    (table.push index fragment).indexOf? name = table.indexOf? name := by
  rw [indexOf?_eq_findIdx?, names_push, ← indexOf?_eq_findIdx?]

theorem indexOf?_enter (table : MacroTable) (entered name : Text) :
    (table.enter entered).indexOf? name =
      (table.indexOf? name).or (if entered = name then some table.size else none) := by
  rw [indexOf?_eq_findIdx?, names_enter, List.findIdx?_append, ← indexOf?_eq_findIdx?]
  by_cases same : entered = name <;> simp [same, names, size]

theorem lt_size_of_indexOf? {table : MacroTable} {name : Text} {index : Nat}
    (located : table.indexOf? name = some index) : index < table.size :=
  (List.findIdx?_eq_some_iff_getElem.mp located).1

theorem mem_names_of_indexOf? {table : MacroTable} {name : Text} {index : Nat}
    (located : table.indexOf? name = some index) : name ∈ table.names := by
  by_contra absent
  cases located.symm.trans (indexOf?_eq_none_iff.mpr absent)

/-! ### Builders in order -/

namespace Builder

/-- A builder is in order: the names of its table are distinct, its index answers what a search
of the table would, and the open body has a place in the table. -/
structure WellFormed (builder : Builder) : Prop where
  distinct : builder.table.names.Nodup
  indexed : ∀ name, builder.places.lookup name = builder.table.indexOf? name
  inRange : ∀ index, builder.openAt = some index → index < builder.table.size

variable {builder : Builder}

theorem wellFormed_start : start.WellFormed := ⟨List.nodup_nil, fun _ => rfl, nofun⟩

theorem WellFormed.contribute (wellFormed : builder.WellFormed) (fragment : Fragment) :
    (builder.contribute fragment).WellFormed := by
  unfold Builder.contribute
  split
  · rename_i index isOpen
    refine ⟨?_, fun name => ?_, fun place samePlace => ?_⟩
    · exact (names_push _ _ _).symm ▸ wellFormed.distinct
    · rw [indexOf?_push]
      exact wellFormed.indexed name
    · rw [size_push]
      exact wellFormed.inRange place samePlace
  · exact wellFormed

/-- Opening a body of a name that has a place opens that place. Any other name is entered behind
the others, and its new place is opened. -/
theorem WellFormed.define_cases (wellFormed : builder.WellFormed) (name : Text) :
    (∃ index, builder.table.indexOf? name = some index ∧
      builder.define name = { builder with openAt := some index }) ∨
    builder.table.indexOf? name = none ∧
      builder.define name = ⟨builder.table.enter name,
        (name, builder.table.size) :: builder.places, some builder.table.size⟩ := by
  rw [Builder.define, wellFormed.indexed name]
  cases builder.table.indexOf? name with
  | some index => exact .inl ⟨index, rfl, rfl⟩
  | none => exact .inr ⟨rfl, rfl⟩

theorem WellFormed.define (wellFormed : builder.WellFormed) (name : Text) :
    (builder.define name).WellFormed := by
  obtain ⟨index, located, isDefined⟩ | ⟨unlocated, isDefined⟩ := wellFormed.define_cases name
  · rw [isDefined]
    refine ⟨wellFormed.distinct, wellFormed.indexed, ?_⟩
    rintro place ⟨⟩
    exact lt_size_of_indexOf? located
  · rw [isDefined]
    refine ⟨?_, fun other => ?_, ?_⟩
    · rw [names_enter, ← List.concat_eq_append]
      exact wellFormed.distinct.concat (indexOf?_eq_none_iff.mp unlocated)
    · rw [indexOf?_enter, ← wellFormed.indexed other, List.lookup_cons]
      by_cases same : name = other
      · subst same
        simp [wellFormed.indexed, unlocated]
      · simp [same, beq_false_of_ne (Ne.symm same)]
    · rintro place ⟨⟩
      rw [size_enter]
      exact Nat.lt_succ_self _

/-- One event leaves a builder in order. -/
theorem WellFormed.observe (wellFormed : builder.WellFormed) (event : Event) :
    (builder.observe event).WellFormed := by
  cases event with
  | passage text => exact wellFormed.contribute (.literal text)
  | opening kind name => exact wellFormed.define name
  | closing => exact ⟨wellFormed.distinct, wellFormed.indexed, nofun⟩
  | reference name => exact wellFormed.contribute (.reference name)
  | substitution | directive => exact wellFormed

/-- A list of events leaves a builder in order. -/
theorem WellFormed.observeAll (wellFormed : builder.WellFormed) (events : List Event) :
    (events.foldl Builder.observe builder).WellFormed := by
  induction events generalizing builder with
  | nil => exact wellFormed
  | cons event events inductionHypothesis => exact inductionHypothesis (wellFormed.observe event)

end Builder

/-- The names of a table that events have built are distinct. -/
theorem nodup_names_ofEvents (events : List Event) : (ofEvents events).names.Nodup :=
  (Builder.wellFormed_start.observeAll events).distinct

end MacroTable

end Literate
