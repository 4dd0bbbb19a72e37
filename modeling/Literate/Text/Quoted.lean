/-
This file writes a text in quoted form, as it appears in messages: between double
quotes, with every character that could be mistaken or not be seen replaced by
an escape that starts with a backslash. A quoted text stays on one line.
-/

import Literate.Text
import Literate.Text.Printable

namespace Literate.Text

/-- The digits of a number to base sixteen, in small letters and without leading zeros. -/
def hexDigits (number : Nat) : Text := Nat.toDigits 16 number

/-- A character as it is written between quotes. The quote and the backslash get a backslash,
four controls have a letter of their own, and what cannot be seen is written by its code. -/
def quotedCharacter (character : Char) : Text :=
  if character = '"' then ['\\', '"']
  else if character = '\\' then ['\\', '\\']
  else if character = '\t' then ['\\', 't']
  else if character = '\r' then ['\\', 'r']
  else if character = '\n' then ['\\', 'n']
  else if character.toNat = 0 then ['\\', '0']
  else if isPrintable character then [character]
  else ['\\', 'u', '\x7b'] ++ hexDigits character.toNat ++ ['\x7d']

/-- A text between double quotes. -/
def quoted (text : Text) : Text := '"' :: text.flatMap quotedCharacter ++ ['"']

end Literate.Text
