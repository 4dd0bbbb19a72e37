/-
This file defines the tokens of a literate document. A token keeps the raw text
it was read from, so that the texts of the tokens, written one after the other,
are the document again.
-/

import Literate.Position

namespace Literate

/-- The classes of tokens. -/
inductive TokenKind where
  /-- The end of an input; its text is empty. -/
  | endOfInput
  /-- The opening of a macro body, `<<name>>=`. -/
  | macroStart
  /-- The end of a macro body, `>>@<<`. -/
  | macroEnd
  /-- A reference to a macro, `<<name>>` without a following `=`. -/
  | macroReference
  /-- Text that is no delimiter. -/
  | passthrough
  /-- A placeholder or an assignment, `%[key]%` or `%[key=value]%`. -/
  | textSubstitution
  /-- A directive, `#[key=value]`. -/
  | specialDirective
  deriving DecidableEq

/-- The name of a token class in listings. -/
def TokenKind.label : TokenKind → String
  | .endOfInput => "end-of-input"
  | .macroStart => "macro-start"
  | .macroEnd => "macro-end"
  | .macroReference => "macro-reference"
  | .passthrough => "passthrough"
  | .textSubstitution => "text-substitution"
  | .specialDirective => "special-directive"

/-- A classified piece of a document with the place it was found at. -/
structure Token where
  kind : TokenKind
  text : Text
  position : Position
  deriving DecidableEq

namespace Token

/-- Whether a token marks the end of its input. -/
def isEnd (token : Token) : Bool := token.kind == .endOfInput

/-- The document that a list of tokens was read from. -/
def documentOf (tokens : List Token) : Text := tokens.flatMap Token.text

end Token

end Literate
