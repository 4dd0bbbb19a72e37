/-
This file defines the values that settings have, and where a setting stands. A
setting is found by a path: names lead into tables and positions into lists. On
the way to a setting whatever is missing is made, and what is no table, or no list,
gives way to an empty one where a table, or a list, is needed.

Lists and tables remember whether they stand in a file as they are. What was made
on the way to something else, or put together from several tables, does not.
-/

import Literate.Text.Lowered
import Literate.Toml.Grammar

namespace Literate

/-- A value among the settings. -/
inductive Setting where
  /-- A place that was passed over when a list was made longer. -/
  | blank
  | string (text : Text)
  | integer (value : Int)
  | float (value : Binary64)
  | boolean (value : Bool)
  | list (isWritten : Bool) (items : List Setting)
  | table (isWritten : Bool) (members : List (Text × Setting))

/-- One step of the way to a setting. -/
inductive SettingStep where
  /-- To the member of a table that has a name. -/
  | name (name : Text)
  /-- To the item of a list at a position, which is counted from the end if it is negative. -/
  | position (index : Int)
  deriving DecidableEq

namespace Setting

open Toml (Value)

/-! ### Settings of a file -/

mutual

/-- A value as it stands in a file. -/
def ofValue : Value → Setting
  | .string text => .string text
  | .moment written => .string written
  | .integer value => .integer value
  | .float value => .float value
  | .boolean value => .boolean value
  | .array items => .list true (ofItems items)
  | .table members => .table true (ofMembers members)

/-- The items of a list as they stand in a file. -/
def ofItems : List Value → List Setting
  | [] => []
  | item :: rest => ofValue item :: ofItems rest

/-- The members of a table as they stand in a file. -/
def ofMembers : List (Text × Value) → List (Text × Setting)
  | [] => []
  | (name, value) :: rest => (name, ofValue value) :: ofMembers rest

end

/-! ### Members and items -/

/-- The members of a table, and whether it is written so; anything else counts as a table that
was just made. -/
def asTable : Setting → Bool × List (Text × Setting)
  | .table isWritten members => (isWritten, members)
  | _ => (false, [])

/-- The items of a list, and whether it is written so; anything else counts as a list that was
just made. -/
def asList : Setting → Bool × List Setting
  | .list isWritten items => (isWritten, items)
  | _ => (false, [])

/-- Acts on the member of a name, in its place if there is one. The action is told what is
there. -/
def atName (members : List (Text × Setting)) (name : Text) (act : Option Setting → Setting) :
    List (Text × Setting) :=
  match members with
  | [] => [(name, act none)]
  | (key, old) :: rest =>
    if key = name then (key, act (some old)) :: rest else (key, old) :: atName rest name act

/-- Acts on the item at an index. A list that is too short is filled up with blanks. -/
def atIndex (items : List Setting) (index : Nat) (act : Setting → Setting) : List Setting :=
  match items, index with
  | [], 0 => [act .blank]
  | [], index + 1 => .blank :: atIndex [] index act
  | item :: rest, 0 => act item :: rest
  | item :: rest, index + 1 => item :: atIndex rest index act

/-- Acts on the item at a position. Before the start of the list there is nothing to act on. -/
def atPosition (items : List Setting) (position : Int) (act : Setting → Setting) :
    List Setting :=
  if 0 ≤ position then atIndex items position.toNat act
  else if position.natAbs ≤ items.length then
    atIndex items (items.length - position.natAbs) act
  else items

/-! ### Laying settings over others -/

mutual

/-- What becomes of a setting when another one is laid over it. A table is merged into what is
there; anything else replaces it. -/
def merge (old : Option Setting) : Setting → Setting
  | .table _ members => mergeMembers (old.getD (.table false [])) members
  | other => other

/-- Lays the members of a table over a setting, one after the other. The first of them turns what
is no table into one. Names are compared in small letters. -/
def mergeMembers (old : Setting) : List (Text × Setting) → Setting
  | [] => old
  | (name, setting) :: rest =>
    let (isWritten, members) := old.asTable
    let extended := atName members (Text.lowered name) fun before => merge before setting
    mergeMembers (.table isWritten extended) rest

end

/-- Lays a setting over the one at the end of a path. It is merged into the member of a table, but
takes the place of the item of a list. -/
def assign (setting : Setting) : List SettingStep → Setting → Setting
  | [], _ => setting
  | [.name name], old => mergeMembers old [(name, setting)]
  | .name name :: rest, old =>
    let (isWritten, members) := old.asTable
    .table isWritten (atName members (Text.lowered name) fun before =>
      assign setting rest (before.getD .blank))
  | .position index :: rest, old =>
    let (isWritten, items) := old.asList
    .list isWritten (atPosition items index (assign setting rest))

end Setting

/-! ### Paths -/

namespace SettingStep

/-- The characters of a name in a path. -/
def isNameCharacter (character : Char) : Bool := Toml.isBare character || character == ' '

/-- A position between its brackets, after the opening one, with blanks around it. -/
def position? : Toml.Reader Int := fun text =>
  let (isNegative, digits) :=
    match Toml.skipBlanks text with
    | '-' :: digits => (true, digits)
    | digits => (false, digits)
  match digits.takeWhile Char.isDigit with
  | [] => none
  | run =>
    match Toml.skipBlanks (digits.dropWhile Char.isDigit) with
    | ']' :: rest =>
      let size : Int := Toml.numberOf 10 run
      let value := if isNegative then -size else size
      if -9223372036854775808 ≤ value ∧ value ≤ 9223372036854775807 then some (value, rest)
      else none
    | _ => none

/-- The steps that a text spells: a dot in front of every name, brackets around every position.
The bound limits the number of steps. -/
def spelled? : Nat → Text → Option (List SettingStep)
  | _, [] => some []
  | 0, _ => none
  | bound + 1, '.' :: rest =>
    match rest.takeWhile isNameCharacter with
    | [] => none
    | found => (spelled? bound (rest.dropWhile isNameCharacter)).map (.name found :: ·)
  | bound + 1, '[' :: rest =>
    match position? rest with
    | none => none
    | some (index, after) => (spelled? bound after).map (.position index :: ·)
  | _ + 1, _ => none

/-- The path that a key of a file spells; a key that spells none is the name of a single step. -/
def ofKey (key : Text) : List SettingStep :=
  (spelled? (key.length + 1) ('.' :: key)).getD [.name key]

end SettingStep

end Literate
