/-
This file holds the values that a TOML document can have, and the tables under
construction that such a document builds. A table under construction remembers how
it came to be: by a header of its own, on the way to another table, or by a dotted
key. A table can be extended only by the means that created it, and nothing is
defined twice.
-/

import Literate.Decimal.Binary64

namespace Literate.Toml

/-- A value of a TOML document. Dates and times are kept as they are written. -/
inductive Value where
  | string (text : Text)
  | integer (value : Int)
  | float (value : Binary64)
  | boolean (value : Bool)
  | moment (written : Text)
  | array (items : List Value)
  | table (members : List (Text × Value))

/-- What a name stands for while a document is being put together. -/
inductive Node where
  /-- A value, which is never changed any more. -/
  | value (value : Value)
  /-- A table. It is implicit if no header has named it, and dotted if a dotted key made it. -/
  | table (implicit dotted : Bool) (members : List (Text × Node))
  /-- The tables of a repeated header; the last of them is open. -/
  | tables (items : List (List (Text × Node)))

/-- The names of a table with what they stand for. -/
abbrev Members := List (Text × Node)

namespace Members

/-- Gives a name a new meaning, in its place if it has one. -/
def set (members : Members) (name : Text) (node : Node) : Members :=
  match members with
  | [] => [(name, node)]
  | (key, old) :: rest =>
    if key = name then (key, node) :: rest else (key, old) :: set rest name node

/-- Takes a name out. -/
def discard (members : Members) (name : Text) : Members :=
  members.filter fun entry => entry.1 ≠ name

/-- Acts on the table at the end of a path, making the tables on the way that are missing. A path
of a dotted key passes only through tables that no header has named. The action is told
whether the table it acts on was made by a dotted key. -/
def within {β : Type} (byDottedKey : Bool) (path : List Text) (isDotted : Bool)
    (members : Members) (act : Bool → Members → Option (β × Members)) : Option (β × Members) :=
  match path with
  | [] => act isDotted members
  | name :: rest =>
    match members.lookup name with
    | none =>
      (within byDottedKey rest byDottedKey [] act).map fun result =>
        (result.1, members.set name (.table true byDottedKey result.2))
    | some (.value _) => none
    | some (.table implicit dotted inner) =>
      if byDottedKey && !implicit then none
      else
        (within byDottedKey rest dotted inner act).map fun result =>
          (result.1, members.set name (.table implicit dotted result.2))
    | some (.tables items) =>
      match items.getLast? with
      | none => none
      | some last =>
        (within byDottedKey rest false last act).map fun result =>
          (result.1, members.set name (.tables (items.dropLast ++ [result.2])))

/-- Defines the value of a dotted key, given by the path to its table and its last name. -/
def define (members : Members) (path : List Text) (name : Text) (value : Value) :
    Option Members :=
  (members.within true path false fun isDotted inner =>
    if isDotted == path.isEmpty || (inner.lookup name).isSome then none
    else some ((), inner.set name (.value value))).map Prod.snd

mutual

/-- The value of a name once the document is complete. -/
def nodeValue : Node → Value
  | .value value => value
  | .table _ _ members => .table (memberValues members)
  | .tables items => .array (tableValues items)

/-- The values of the names of a table. -/
def memberValues : List (Text × Node) → List (Text × Value)
  | [] => []
  | (name, node) :: rest => (name, nodeValue node) :: memberValues rest

/-- The values of the tables of a repeated header. -/
def tableValues : List (List (Text × Node)) → List Value
  | [] => []
  | members :: rest => .table (memberValues members) :: tableValues rest

end

end Members

end Literate.Toml
