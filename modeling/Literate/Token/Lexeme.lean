/-
This file cuts the first token off a text. Four characters can start a delimiter;
every other character is a token by itself. A delimiter that breaks off becomes
plain text made of all the characters that were looked at, so that no text is
ever refused and no character is ever lost.
-/

import Literate.Token
import Literate.Token.Pattern

namespace Literate

namespace Pattern

/-- The shape of `<<name>>`. A name has no newline, so the delimiter stays on one line. -/
def macroReference : Pattern :=
  [.exactly '<', .exactly '<', .runAvoiding ['>', '\n'], .exactly '>', .exactly '>']

/-- The shape of `<<name>>=`. -/
def macroStart : Pattern := macroReference ++ [.exactly '=']

/-- The shape of `>>@<<`. -/
def macroEnd : Pattern :=
  [.exactly '>', .exactly '>', .exactly '@', .exactly '<', .exactly '<']

/-- The shape of `%[inner]%`. -/
def textSubstitution : Pattern :=
  [.exactly '%', .exactly '[', .runAvoiding [']'], .exactly ']', .exactly '%']

/-- The shape of `#[key=value]`. -/
def specialDirective : Pattern :=
  [.exactly '#', .exactly '[', .runAvoiding ['='], .exactly '=', .runAvoiding [']'], .exactly ']']

end Pattern

/-- The kind and the text of a token, without its place. -/
structure Lexeme where
  kind : TokenKind
  text : Text
  deriving DecidableEq

namespace Lexeme

/-- The first token of a text that may start with a delimiter of the given kind and shape. -/
def delimiterOr (kind : TokenKind) (shape : Pattern) (text : Text) : Lexeme :=
  let trail := Pattern.follow shape text
  ⟨if trail.complete then kind else .passthrough, trail.consumed⟩

/-- A reference that is directly followed by `=` opens a macro body instead. -/
def promote (lexeme : Lexeme) (text : Text) : Lexeme :=
  match lexeme.kind, text.drop lexeme.text.length with
  | .macroReference, '=' :: _ => ⟨.macroStart, lexeme.text ++ ['=']⟩
  | _, _ => lexeme

/-- The first token of the text that consists of `first` and `rest`. -/
def scan (first : Char) (rest : Text) : Lexeme :=
  if first = '<' then
    promote (delimiterOr .macroReference Pattern.macroReference (first :: rest)) (first :: rest)
  else if first = '>' then delimiterOr .macroEnd Pattern.macroEnd (first :: rest)
  else if first = '%' then delimiterOr .textSubstitution Pattern.textSubstitution (first :: rest)
  else if first = '#' then delimiterOr .specialDirective Pattern.specialDirective (first :: rest)
  else ⟨.passthrough, [first]⟩

end Lexeme

end Literate
