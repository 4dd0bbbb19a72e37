/-
This file writes structured data as JSON text, either without any blanks or spread
over lines with two spaces of indentation. Members stand in the order they are
given in.
-/

import Literate.Text.Quoted
import Literate.Token

namespace Literate

/-- Structured data to be written. -/
inductive Json where
  | number (value : Nat)
  | text (value : Text)
  | array (items : List Json)
  | object (members : List (Text × Json))

namespace Json

/-- A character inside a JSON string. Controls are written by a letter or by four digits to base
sixteen; every other character stands for itself. -/
def escaped (character : Char) : Text :=
  if character = '"' then ['\\', '"']
  else if character = '\\' then ['\\', '\\']
  else if character = '\n' then ['\\', 'n']
  else if character = '\r' then ['\\', 'r']
  else if character = '\t' then ['\\', 't']
  else if character.toNat = 8 then ['\\', 'b']
  else if character.toNat = 12 then ['\\', 'f']
  else if character.toNat < 0x10 then ['\\', 'u', '0', '0', '0'] ++ Text.hexDigits character.toNat
  else if character.toNat < 0x20 then ['\\', 'u', '0', '0'] ++ Text.hexDigits character.toNat
  else [character]

/-- A text as a JSON string. -/
def quoted (text : Text) : Text := '"' :: text.flatMap escaped ++ ['"']

mutual

/-- The written form without blanks. -/
def compact : Json → Text
  | .number value => Text.ofNat value
  | .text value => quoted value
  | .array items => '[' :: Text.join [','] (compactItems items) ++ [']']
  | .object members => '\x7b' :: Text.join [','] (compactMembers members) ++ ['\x7d']

/-- The written forms of the items of an array. -/
def compactItems : List Json → List Text
  | [] => []
  | item :: items => compact item :: compactItems items

/-- The written forms of the members of an object. -/
def compactMembers : List (Text × Json) → List Text
  | [] => []
  | (key, value) :: members => (quoted key ++ ':' :: compact value) :: compactMembers members

end

/-- A new line at a depth of nesting, two spaces for each level. -/
def lineBreak (depth : Nat) : Text := '\n' :: List.replicate (2 * depth) ' '

/-- Parts between brackets, each on a line of its own one level deeper. Without parts the
brackets stand together. -/
def block (opening closing : Char) (depth : Nat) (parts : List Text) : Text :=
  if parts.isEmpty then [opening, closing]
  else
    opening :: lineBreak (depth + 1) ++ Text.join (',' :: lineBreak (depth + 1)) parts ++
      lineBreak depth ++ [closing]

mutual

/-- The written form over several lines, at a depth of nesting. -/
def pretty (depth : Nat) : Json → Text
  | .number value => Text.ofNat value
  | .text value => quoted value
  | .array items => block '[' ']' depth (prettyItems (depth + 1) items)
  | .object members => block '\x7b' '\x7d' depth (prettyMembers (depth + 1) members)

/-- The written forms of the items of an array at a depth of nesting. -/
def prettyItems (depth : Nat) : List Json → List Text
  | [] => []
  | item :: items => pretty depth item :: prettyItems depth items

/-- The written forms of the members of an object at a depth of nesting. -/
def prettyMembers (depth : Nat) : List (Text × Json) → List Text
  | [] => []
  | (key, value) :: members =>
    (quoted key ++ ':' :: ' ' :: pretty depth value) :: prettyMembers depth members

end

end Json

/-! ### Positions and tokens as structured data -/

/-- A position as an object with five members. -/
def Position.toJson (position : Position) : Json :=
  .object [
    (Text.ofString "source", .text position.source),
    (Text.ofString "start_line", .number position.startLine),
    (Text.ofString "start_column", .number position.startColumn),
    (Text.ofString "end_line", .number position.endLine),
    (Text.ofString "end_column", .number position.endColumn)]

/-- A token as an object with its kind, text and position. -/
def Token.toJson (token : Token) : Json :=
  .object [
    (Text.ofString "kind", .text (Text.ofString token.kind.label)),
    (Text.ofString "text", .text token.text),
    (Text.ofString "position", token.position.toJson)]

end Literate
