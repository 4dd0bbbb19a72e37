/-
This file reads the raw text of a delimiter back into what it says. Each decoder
accepts any text: one that lacks the delimiter's markers is malformed, and the
error carries the text unchanged. A directive whose key is neither of the known
ones is well formed but not supported.
-/

import Literate.Event

namespace Literate

/-- Why the text of a delimiter could not be read. -/
inductive DecodeError where
  | malformedMacroStart (raw : Text)
  | malformedMacroReference (raw : Text)
  | malformedSubstitution (raw : Text)
  | malformedDirective (raw : Text)
  | unsupportedDirective (raw : Text)
  deriving DecidableEq

namespace DecodeError

/-- The text that could not be read. -/
def raw : DecodeError → Text
  | .malformedMacroStart raw => raw
  | .malformedMacroReference raw => raw
  | .malformedSubstitution raw => raw
  | .malformedDirective raw => raw
  | .unsupportedDirective raw => raw

/-- What is wrong, in words. -/
def complaint : DecodeError → String
  | .malformedMacroStart _ => "malformed macro statement"
  | .malformedMacroReference _ => "malformed macro reference"
  | .malformedSubstitution _ => "malformed text substitution"
  | .malformedDirective _ => "malformed special directive"
  | .unsupportedDirective _ => "unsupported directive type"

/-- The message of a decoding error: the complaint and the text between single quotes. -/
def message (error : DecodeError) : Text :=
  Text.ofString error.complaint ++ Text.ofString " \x27" ++ error.raw ++ ['\x27']

end DecodeError

namespace Event

/-- The kind and the name of a macro from what stands between `<<` and `>>=`. Only a front part
that is exactly a known kind counts; any other name is taken whole. -/
def classify (inner : Text) : MacroKind × Text :=
  if inner = rootName then (.root, inner)
  else
    match Text.cutAt? ':' inner with
    | some (front, name) =>
      if front = Text.ofString "FILE" then (.file, name)
      else if front = Text.ofString "SECTION" then (.sectional, name)
      else (.plain, inner)
    | none => (.plain, inner)

/-- Reads `<<inner>>=` as the start of a macro body. -/
def decodeMacroStart (text : Text) : Except DecodeError (MacroKind × Text) :=
  match Text.enclosed? ['<', '<'] ['>', '>', '='] text with
  | some inner => .ok (classify inner)
  | none => .error (.malformedMacroStart text)

/-- Reads `<<name>>` as a reference to a name, which is taken as it stands. -/
def decodeMacroReference (text : Text) : Except DecodeError Text :=
  match Text.enclosed? ['<', '<'] ['>', '>'] text with
  | some name => .ok name
  | none => .error (.malformedMacroReference text)

/-- Reads `%[inner]%`. The first `=` divides key and value; without one there is only a key. -/
def decodeSubstitution (text : Text) : Except DecodeError Substitution :=
  match Text.enclosed? ['%', '['] [']', '%'] text with
  | some inner =>
    match Text.cutAt? '=' inner with
    | some (key, value) => .ok (.assignment key value)
    | none => .ok (.placeholder inner)
  | none => .error (.malformedSubstitution text)

/-- Reads `#[key=value]`, divided at the first `=`. -/
def decodeDirective (text : Text) : Except DecodeError Directive :=
  match (Text.enclosed? ['#', '['] [']'] text).bind (Text.cutAt? '=') with
  | some (key, value) =>
    if key = Text.ofString "include" then .ok (.inclusion value)
    else if key = Text.ofString "language" then .ok (.language value)
    else .error (.unsupportedDirective text)
  | none => .error (.malformedDirective text)

end Event

end Literate
