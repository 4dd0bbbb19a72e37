/-
This file reads the values of a TOML document that are neither strings nor
compound: truth values, whole numbers, floating-point numbers, dates and times. Such
a value is a run of letters, digits and a few signs, and the whole run must be of one
of these forms.
-/

import Literate.Toml.Lexical
import Literate.Toml.Value

namespace Literate.Toml

/-! ### Numbers -/

/-- Digits that may be grouped by single underscores between them, without the underscores. -/
def ungrouped? (isDigit : Char → Bool) (text : Text) : Option Text :=
  let groups := Text.splitAt '_' text
  if groups.all fun group => !group.isEmpty && group.all isDigit then some groups.flatten else none

/-- Decimal digits of a whole number, of which only a single one may be a zero in front. -/
def wholeDigits? (text : Text) : Option Text :=
  match ungrouped? Char.isDigit text with
  | some ('0' :: _ :: _) => none
  | other => other

/-- The number that digits to a base stand for. -/
def numberOf (base : Nat) (digits : Text) : Nat :=
  digits.foldl (fun value digit => base * value + (hexDigit? digit).getD 0) 0

/-- A sign in front, and the text after it. -/
def signed (text : Text) : Bool × Text :=
  match text with
  | '-' :: rest => (true, rest)
  | '+' :: rest => (false, rest)
  | other => (false, other)

/-- A whole number that fits into 64 bits with a sign. -/
def inRange? (value : Int) : Option Value :=
  if -9223372036854775808 ≤ value ∧ value ≤ 9223372036854775807 then some (.integer value) else none

/-- A whole number. Other bases than ten are marked in front and have no sign. -/
def integer? (text : Text) : Option Value :=
  let digitBelow (base : Nat) (character : Char) : Bool :=
    match hexDigit? character with
    | some digit => decide (digit < base)
    | none => false
  let based (base : Nat) (digits : Text) : Option Value :=
    (ungrouped? (digitBelow base) digits).bind fun found => inRange? (numberOf base found)
  match text with
  | '0' :: 'x' :: digits => based 16 digits
  | '0' :: 'o' :: digits => based 8 digits
  | '0' :: 'b' :: digits => based 2 digits
  | _ =>
    let (negative, body) := signed text
    (wholeDigits? body).bind fun digits =>
      let size : Int := numberOf 10 digits
      inRange? (if negative then -size else size)

/-- The power of ten at the end of a number. -/
def exponent? (text : Text) : Option Int :=
  let (negative, body) := signed text
  (ungrouped? Char.isDigit body).map fun digits =>
    let size : Int := numberOf 10 digits
    if negative then -size else size

/-- A floating-point number: a whole part with places after a point, with an exponent, or with
both. A number too large for the format is refused unless it is negative. -/
def float? (text : Text) : Option Value :=
  let (negative, body) := signed text
  let mantissa := body.takeWhile fun character => character != 'e' && character != 'E'
  let exponentPart := body.drop (mantissa.length + 1)
  let hasExponent := decide (mantissa.length < body.length)
  let exponent := if hasExponent then exponent? exponentPart else some 0
  let parts : Option (Text × Text) :=
    match Text.cutAt? '.' mantissa with
    | some (whole, places) =>
      (wholeDigits? whole).bind fun whole =>
        (ungrouped? Char.isDigit places).map fun places => (whole, places)
    | none => if hasExponent then (wholeDigits? mantissa).map fun whole => (whole, []) else none
  match parts, exponent with
  | some (whole, places), some exponent =>
    let value :=
      Binary64.ofDecimal negative (numberOf 10 (whole ++ places)) (exponent - places.length)
    if value = .infinite false then none else some (.float value)
  | _, _ => none

/-- Infinity and what is not a number. -/
def specialFloat? (text : Text) : Option Value :=
  let (negative, body) := signed text
  if body = Text.ofString "inf" then some (.float (.infinite negative))
  else if body = Text.ofString "nan" then some (.float .notANumber)
  else none

/-! ### Dates and times -/

/-- A number of exactly so many digits between two limits, followed by the rest. -/
def field? (count low high : Nat) : Reader Nat := fun text =>
  let digits := text.take count
  let value := numberOf 10 digits
  if digits.length = count ∧ digits.all Char.isDigit ∧ low ≤ value ∧ value ≤ high then
    some (value, text.drop count)
  else none

/-- A number with zeros in front to make up a width. -/
def padded (width value : Nat) : Text :=
  let digits := Text.ofNat value
  List.replicate (width - digits.length) '0' ++ digits

/-- The number of days of a month. -/
def daysOf (year month : Nat) : Nat :=
  if month = 2 then
    if year % 4 = 0 ∧ (year % 100 ≠ 0 ∨ year % 400 = 0) then 29 else 28
  else if month = 4 ∨ month = 6 ∨ month = 9 ∨ month = 11 then 30
  else 31

/-- A date, in its normal written form. -/
def date? : Reader Text := fun text => do
  let (year, rest) ← field? 4 0 9999 text
  let ('-' :: rest) := rest | none
  let (month, rest) ← field? 2 1 12 rest
  let ('-' :: rest) := rest | none
  let (day, rest) ← field? 2 1 (daysOf year month) rest
  return (padded 4 year ++ '-' :: padded 2 month ++ '-' :: padded 2 day, rest)

/-- A fraction of a second, to nine places and without zeros at its end. -/
def fraction (digits : Text) : Text :=
  match ((digits.take 9).reverse.dropWhile (· == '0')).reverse with
  | [] => []
  | places => '.' :: places

/-- A time of day, in its normal written form. -/
def time? : Reader Text := fun text => do
  let (hour, rest) ← field? 2 0 23 text
  let (':' :: rest) := rest | none
  let (minute, rest) ← field? 2 0 59 rest
  let (':' :: rest) := rest | none
  let (second, rest) ← field? 2 0 60 rest
  let written := padded 2 hour ++ ':' :: padded 2 minute ++ ':' :: padded 2 second
  match rest with
  | '.' :: after =>
    match after.takeWhile Char.isDigit with
    | [] => none
    | digits => some (written ++ fraction digits, after.dropWhile Char.isDigit)
  | _ => some (written, rest)

/-- The distance of a time from universal time, in its normal written form. -/
def offset? : Reader Text
  | 'Z' :: rest => some (['Z'], rest)
  | 'z' :: rest => some (['Z'], rest)
  | sign :: rest => do
    if sign != '+' && sign != '-' then none
    let (hour, rest) ← field? 2 0 23 rest
    let (':' :: rest) := rest | none
    let (minute, rest) ← field? 2 0 59 rest
    let mark := if hour = 0 ∧ minute = 0 then '+' else sign
    return (mark :: padded 2 hour ++ ':' :: padded 2 minute, rest)
  | [] => none

/-- A time of day with or without an offset, which takes up a whole text. -/
def timeWithOffset? (text : Text) : Option Text := do
  let (time, rest) ← time? text
  if rest.isEmpty then return time
  let (offset, rest) ← offset? rest
  if rest.isEmpty then return time ++ offset else none

/-- A date, a time of day, or both, which takes up a whole text. -/
def moment? (text : Text) : Option Text :=
  match date? text with
  | none => (time? text).bind fun found => if found.2.isEmpty then some found.1 else none
  | some (date, rest) =>
    match rest with
    | [] => some date
    | divider :: after =>
      if divider == 'T' || divider == 't' || divider == ' ' then
        (timeWithOffset? after).map fun time => date ++ 'T' :: time
      else none

/-! ### Runs -/

/-- The characters of the values that are read here. -/
def isScalar (character : Char) : Bool :=
  character.isAlphanum || character == '_' || character == '+' || character == '-' ||
    character == '.' || character == ':'

/-- The value of a whole run. -/
def scalarOf? (run : Text) : Option Value :=
  if run = Text.ofString "true" then some (.boolean true)
  else if run = Text.ofString "false" then some (.boolean false)
  else
    (moment? run).map .moment <|> float? run <|> specialFloat? run <|> integer? run

/-- A value that is neither a string nor compound. A date may be followed by a space and a time
of day. -/
def scalar? : Reader Value := fun text =>
  let run := text.takeWhile isScalar
  let after := text.dropWhile isScalar
  let plain := (scalarOf? run).map fun value => (value, after)
  match date? run, after with
  | some (_, []), ' ' :: later =>
    let second := later.takeWhile isScalar
    match moment? (run ++ ' ' :: second) with
    | some written => some (.moment written, later.dropWhile isScalar)
    | none => plain
  | _, _ => plain

end Literate.Toml
