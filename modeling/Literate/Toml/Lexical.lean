/-
This file reads the smallest parts of a TOML document: blanks and comments, the
ends of lines, and the four kinds of strings. Every reader takes the characters
that are left and gives what it read together with the characters after it.
-/

import Literate.Text

namespace Literate.Toml

/-- A reader takes something off the front of a text, or fails. -/
abbrev Reader (α : Type) := Text → Option (α × Text)

/-! ### Blanks, comments and ends of lines -/

/-- Spaces and tabs. -/
def isBlank (character : Char) : Bool := character == ' ' || character == '\t'

/-- The characters after the blanks in front. -/
def skipBlanks (text : Text) : Text := text.dropWhile isBlank

/-- The characters that may stand in a comment: no control but the tab. -/
def isPlain (character : Char) : Bool :=
  character == '\t' || (decide (0x20 ≤ character.toNat) && decide (character.toNat ≠ 0x7F))

/-- The characters after the end of a line, which is a newline, alone or after a carriage
return. -/
def newline? : Text → Option Text
  | '\n' :: rest => some rest
  | '\r' :: '\n' :: rest => some rest
  | _ => none

/-- The characters after the end of a line or of the document, with blanks and a comment in
front of it. -/
def lineEnd? (text : Text) : Option Text :=
  let uncommented :=
    match skipBlanks text with
    | '#' :: comment => comment.dropWhile isPlain
    | other => other
  match uncommented with
  | [] => some []
  | other => newline? other

/-- The characters after blanks, comments and ends of lines. -/
def skipSpace (inComment : Bool) : Text → Option Text
  | [] => some []
  | '\n' :: rest => skipSpace false rest
  | '\r' :: '\n' :: rest => skipSpace false rest
  | character :: rest =>
    if inComment then
      if isPlain character then skipSpace true rest else none
    else if isBlank character then skipSpace false rest
    else if character == '#' then skipSpace true rest
    else some (character :: rest)

/-! ### Escapes -/

/-- The value of a digit to base sixteen. -/
def hexDigit? (character : Char) : Option Nat :=
  if '0' ≤ character ∧ character ≤ '9' then some (character.toNat - '0'.toNat)
  else if 'a' ≤ character ∧ character ≤ 'f' then some (character.toNat - 'a'.toNat + 10)
  else if 'A' ≤ character ∧ character ≤ 'F' then some (character.toNat - 'A'.toNat + 10)
  else none

/-- The character whose code is given by a fixed number of digits to base sixteen. -/
def codePoint? (count : Nat) : Reader Char := fun text =>
  if (text.take count).length = count then
    match (text.take count).mapM hexDigit? with
    | none => none
    | some digits =>
      let code := digits.foldl (fun value digit => 16 * value + digit) 0
      if code.isValidChar then some (Char.ofNat code, text.drop count) else none
  else none

/-- The character that an escape stands for, after the backslash. -/
def escape? : Reader Char
  | 'b' :: rest => some (Char.ofNat 8, rest)
  | 't' :: rest => some ('\t', rest)
  | 'n' :: rest => some ('\n', rest)
  | 'f' :: rest => some (Char.ofNat 12, rest)
  | 'r' :: rest => some ('\r', rest)
  | '"' :: rest => some ('"', rest)
  | '\\' :: rest => some ('\\', rest)
  | 'u' :: rest => codePoint? 4 rest
  | 'U' :: rest => codePoint? 8 rest
  | _ => none

/-! ### Strings -/

/-- The rest of a basic string after its opening quote. The bound is the number of characters. -/
def basicBody : Nat → Reader Text
  | 0, _ => none
  | bound + 1, text =>
    match text with
    | '"' :: rest => some ([], rest)
    | '\\' :: rest =>
      match escape? rest with
      | none => none
      | some (character, after) =>
        (basicBody bound after).map fun result => (character :: result.1, result.2)
    | character :: rest =>
      if isPlain character then
        (basicBody bound rest).map fun result => (character :: result.1, result.2)
      else none
    | [] => none

/-- The rest of a literal string after its opening quote. -/
def literalBody : Reader Text
  | '\x27' :: rest => some ([], rest)
  | character :: rest =>
    if isPlain character then
      (literalBody rest).map fun result => (character :: result.1, result.2)
    else none
  | [] => none

/-- The number of quotes in front of a text, up to five. -/
def quoteCount (quote : Char) (text : Text) : Nat :=
  ((text.take 5).takeWhile (· == quote)).length

/-- The characters after blanks and ends of lines. -/
def skipLines : Text → Text
  | '\n' :: rest => skipLines rest
  | '\r' :: '\n' :: rest => skipLines rest
  | character :: rest => if isBlank character then skipLines rest else character :: rest
  | [] => []

/-- The characters after the end of a line with blanks in front, and after what is blank in the
lines below. -/
def continuation? (text : Text) : Option Text := (newline? (skipBlanks text)).map skipLines

/-- The rest of a string over several lines. Three quotes end it, and up to two more quotes right
before them belong to it. In the basic form a backslash starts an escape, or makes the end of
the line and the blanks after it vanish. -/
def multilineBody (quote : Char) (escapes : Bool) : Nat → Reader Text
  | 0, _ => none
  | bound + 1, text =>
    let quotes := quoteCount quote text
    if 3 ≤ quotes then some (List.replicate (quotes - 3) quote, text.drop quotes)
    else
      let put (character : Char) (after : Text) :=
        (multilineBody quote escapes bound after).map fun result =>
          (character :: result.1, result.2)
      match text with
      | [] => none
      | character :: rest =>
        if escapes && character == '\\' then
          match continuation? rest, escape? rest with
          | some after, _ => multilineBody quote escapes bound after
          | none, some (escaped, after) => put escaped after
          | none, none => none
        else
          match newline? text with
          | some after => put '\n' after
          | none => if isPlain character then put character rest else none

/-- The characters after a newline, if there is one in front. -/
def skipFirstNewline (text : Text) : Text := (newline? text).getD text

/-- A string of any of the four kinds. -/
def stringValue? : Reader Text
  | '"' :: '"' :: '"' :: rest => multilineBody '"' true (rest.length + 1) (skipFirstNewline rest)
  | '\x27' :: '\x27' :: '\x27' :: rest =>
    multilineBody '\x27' false (rest.length + 1) (skipFirstNewline rest)
  | '"' :: rest => basicBody (rest.length + 1) rest
  | '\x27' :: rest => literalBody rest
  | _ => none

/-! ### Keys -/

/-- How deep arrays and inline tables may be nested, and how many names a key may have. -/
def deepest : Nat := 79

/-- The characters of a bare key. -/
def isBare (character : Char) : Bool :=
  character.isAlphanum || character == '_' || character == '-'

/-- One name of a key: bare, or a string on one line. -/
def name? : Reader Text
  | '"' :: rest => basicBody (rest.length + 1) rest
  | '\x27' :: rest => literalBody rest
  | text =>
    match text.takeWhile isBare with
    | [] => none
    | bare => some (bare, text.dropWhile isBare)

/-- The names of a key, divided by dots, with blanks around the dots. -/
def names? : Nat → Reader (List Text)
  | 0, _ => none
  | bound + 1, text =>
    match name? text with
    | none => none
    | some (first, after) =>
      match skipBlanks after with
      | '.' :: rest => (names? bound (skipBlanks rest)).map fun result =>
          (first :: result.1, result.2)
      | other => some ([first], other)

/-- A key, which has a limited number of names. Blanks after it are skipped. -/
def key? : Reader (List Text) := fun text =>
  (names? (text.length + 1) text).filter fun found => decide (found.1.length ≤ deepest)

end Literate.Toml
