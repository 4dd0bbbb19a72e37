/-
This file reads whole TOML documents. A document is a sequence of lines, each of
them empty, a header, or a key with its value. The headers divide the lines into
tables; the table that is open is put into its place when the next header, or the
end of the document, closes it.
-/

import Literate.Toml.Scalar

namespace Literate.Toml

/-! ### Compound values -/

mutual

/-- A value in which compound values may be nested so many levels deep. The bound limits the
number of steps. -/
def value? (levels : Nat) : Nat → Reader Value
  | 0, _ => none
  | bound + 1, text =>
    match text, levels with
    | '"' :: _, _ => (stringValue? text).map fun result => (.string result.1, result.2)
    | '\x27' :: _, _ => (stringValue? text).map fun result => (.string result.1, result.2)
    | '[' :: _, 0 => none
    | '[' :: rest, inner + 1 =>
      (items? inner bound rest).map fun result => (.array result.1, result.2)
    | '\x7b' :: _, 0 => none
    | '\x7b' :: rest, inner + 1 =>
      match skipBlanks rest with
      | '\x7d' :: after => some (.table [], after)
      | other => (pairs? inner bound [] other).map fun result =>
          (.table (Members.memberValues result.1), result.2)
    | _, _ => scalar? text

/-- The items of an array after its opening bracket or a comma, up to its closing bracket. -/
def items? (levels : Nat) : Nat → Reader (List Value)
  | 0, _ => none
  | bound + 1, text =>
    match skipSpace false text with
    | none => none
    | some (']' :: rest) => some ([], rest)
    | some start =>
      match value? levels bound start with
      | none => none
      | some (item, after) =>
        match skipSpace false after with
        | some (']' :: rest) => some ([item], rest)
        | some (',' :: rest) =>
          (items? levels bound rest).map fun result => (item :: result.1, result.2)
        | _ => none

/-- The pairs of an inline table from the first name on, up to its closing brace. -/
def pairs? (levels : Nat) : Nat → Members → Reader Members
  | 0, _, _ => none
  | bound + 1, members, text =>
    match pair? levels bound text with
    | none => none
    | some ((path, value), after) =>
      match members.define path.dropLast (path.getLast?.getD []) value with
      | none => none
      | some extended =>
        match skipBlanks after with
        | '\x7d' :: rest => some (extended, rest)
        | ',' :: rest => pairs? levels bound extended (skipBlanks rest)
        | _ => none

/-- A key with its value. -/
def pair? (levels : Nat) : Nat → Reader (List Text × Value)
  | 0, _ => none
  | bound + 1, text =>
    match key? text with
    | some (path, '=' :: rest) =>
      (value? levels bound (skipBlanks rest)).map fun result => ((path, result.1), result.2)
    | _ => none

end

/-! ### Lines -/

/-- What a line of a document says. -/
inductive Statement where
  /-- The value of a key. -/
  | pair (path : List Text) (value : Value)
  /-- The header of a table. -/
  | header (path : List Text)
  /-- The header of one more table of a list. -/
  | listHeader (path : List Text)

/-- The key of a header between its brackets, up to the end of the line. -/
def headerKey? (closing : Text) (text : Text) : Option (List Text × Text) :=
  match key? (skipBlanks text) with
  | none => none
  | some (path, after) =>
    match Text.afterOpening? closing after with
    | none => none
    | some rest => (lineEnd? rest).map fun next => (path, next)

/-- The statements of a document. The bound limits the number of lines. -/
def statements? : Nat → Text → Option (List Statement)
  | 0, _ => none
  | bound + 1, text =>
    let more (statement : Statement) (rest : Text) : Option (List Statement) :=
      (statements? bound rest).map (statement :: ·)
    match skipBlanks text with
    | [] => some []
    | '[' :: '[' :: rest =>
      (headerKey? [']', ']'] rest).bind fun found => more (.listHeader found.1) found.2
    | '[' :: rest => (headerKey? [']'] rest).bind fun found => more (.header found.1) found.2
    | start =>
      match lineEnd? start with
      | some rest => statements? bound rest
      | none =>
        match pair? deepest (2 * start.length + 2) start with
        | none => none
        | some ((path, value), after) =>
          (lineEnd? after).bind fun rest => more (.pair path value) rest

/-! ### Putting the tables together -/

/-- A document under construction: the tables that are complete, and the one that is open with
its path and whether it is one of a list. -/
structure Draft where
  complete : Members
  current : Members
  path : List Text
  isListed : Bool

namespace Draft

/-- The document before its first line, with the table of the whole document open. -/
def start : Draft := ⟨[], [], [], false⟩

/-- Puts the open table into its place. -/
def close (draft : Draft) : Option Members :=
  match draft.path.getLast? with
  | none => some draft.current
  | some name =>
    (draft.complete.within false draft.path.dropLast false fun _ members =>
      match draft.isListed, members.lookup name with
      | true, none => some ((), members.set name (.tables [draft.current]))
      | true, some (.tables items) =>
        some ((), members.set name (.tables (items ++ [draft.current])))
      | false, none => some ((), members.set name (.table false false draft.current))
      | _, _ => none).map Prod.snd

/-- Opens the table of a header. A table that stood only on the way to others is opened with
what it has; any other must be new. -/
def openTable (draft : Draft) (path : List Text) : Option Draft := do
  let complete ← draft.close
  let name ← path.getLast?
  let (current, others) ← complete.within false path.dropLast false fun _ members =>
    match members.lookup name with
    | none => some ([], members)
    | some (.table true false inner) => some (inner, members.discard name)
    | some _ => none
  return ⟨others, current, path, false⟩

/-- Opens one more table of a list. -/
def openListed (draft : Draft) (path : List Text) : Option Draft := do
  let complete ← draft.close
  let name ← path.getLast?
  let (_, others) ← complete.within false path.dropLast false fun _ members =>
    match members.lookup name with
    | none => some ((), members)
    | some (.tables _) => some ((), members)
    | some _ => none
  return ⟨others, [], path, true⟩

/-- Takes one statement into account. -/
def add (draft : Draft) : Statement → Option Draft
  | .pair path value => do
    let name ← path.getLast?
    let current ← draft.current.define path.dropLast name value
    return { draft with current }
  | .header path => draft.openTable path
  | .listHeader path => draft.openListed path

end Draft

/-- The characters of a document after a byte order mark. -/
def skipMark (text : Text) : Text :=
  match text with
  | '\uFEFF' :: rest => rest
  | other => other

/-! ### Moments in disguise -/

/-- The name that marks a table as standing for a moment. -/
def momentName : Text := Text.ofString "$__toml_private_datetime"

mutual

/-- A value in which every table that starts with the name of a moment is replaced by the moment
that its text gives. There is none if that is no text, or not the text of a moment. -/
def settledValue? : Value → Option Value
  | .array items => (settledItems? items).map .array
  | .table members =>
    match members with
    | [] => some (.table [])
    | (name, value) :: rest =>
      if name = momentName then
        match value with
        | .string written => (moment? written).map .moment
        | _ => none
      else
        (settledValue? value).bind fun first =>
          (settledMembers? rest).map fun others => .table ((name, first) :: others)
  | other => some other

/-- The items of an array with their moments in place. -/
def settledItems? : List Value → Option (List Value)
  | [] => some []
  | item :: rest =>
    (settledValue? item).bind fun first => (settledItems? rest).map (first :: ·)

/-- The members of a table with their moments in place. -/
def settledMembers? : List (Text × Value) → Option (List (Text × Value))
  | [] => some []
  | (name, value) :: rest =>
    (settledValue? value).bind fun first =>
      (settledMembers? rest).map fun others => (name, first) :: others

end

/-- The table of a whole document. A document that is a moment has none. -/
def parse? (text : Text) : Option (List (Text × Value)) := do
  let body := skipMark text
  let found ← statements? (body.length + 1) body
  let draft ← found.foldlM Draft.add .start
  match ← settledValue? (.table (Members.memberValues (← draft.close))) with
  | .table members => return members
  | _ => none

end Literate.Toml
