/-
This file holds the rules on which tokens may stand where. A document alternates
between text outside of macros and macro bodies. Bodies do not nest, references
occur in bodies only, and an input may end only outside of a body. A token read in
a scope either means an event and leads to the next scope, or marks the end of the
input, or is refused.
-/

import Literate.Event.Decode
import Literate.Inclusion.Error
import Literate.Token

namespace Literate

/-- Whether a macro body is open. -/
inductive Scope where
  | outside
  | inside
  deriving DecidableEq

/-- Why a run was ended. -/
inductive Complaint where
  /-- A body starts inside another one. -/
  | nestedMacro
  /-- A body ends where none is open. -/
  | danglingMacroEnd
  /-- A reference stands outside of a body. -/
  | referenceOutsideMacro
  /-- An input ends inside a body. -/
  | unterminatedMacro
  /-- The text of a delimiter could not be read. -/
  | undecoded (error : DecodeError)
  /-- A directive was answered by a failure. -/
  | notIncluded (error : IncludeError)
  deriving DecidableEq

/-- The words of a complaint. -/
def Complaint.message : Complaint → Text
  | .nestedMacro => Text.ofString "macros cannot be nested"
  | .danglingMacroEnd => Text.ofString "macro end with no macro begin"
  | .referenceOutsideMacro => Text.ofString "macro references can only occur in macro bodies"
  | .unterminatedMacro => Text.ofString "expected a macro end before the end of input"
  | .undecoded error => error.message
  | .notIncluded error => error.message

/-- A complaint about the token at a position. -/
structure RunError where
  position : Position
  complaint : Complaint
  deriving DecidableEq

/-- The message of an error: where it is and what is wrong. -/
def RunError.message (error : RunError) : Text :=
  error.position.display ++ Text.ofString ": " ++ error.complaint.message

/-- What a token means in its scope. -/
inductive Meaning where
  /-- The input has ended. -/
  | ended
  /-- An event, and the scope after it. -/
  | event (event : Event) (after : Scope)
  /-- The token may not stand here. -/
  | refused (complaint : Complaint)

namespace Meaning

/-- The meaning of a delimiter whose text was read, if it could be read. -/
def decoded {α : Type} (result : Except DecodeError α) (meaning : α → Meaning) : Meaning :=
  match result with
  | .ok value => meaning value
  | .error error => .refused (.undecoded error)

end Meaning

/-- The meaning of a token of the given kind and text in a scope. -/
def Scope.meaning (scope : Scope) (kind : TokenKind) (text : Text) : Meaning :=
  match scope, kind with
  | .outside, .endOfInput => .ended
  | .inside, .endOfInput => .refused .unterminatedMacro
  | .outside, .macroStart =>
    .decoded (Event.decodeMacroStart text) fun found => .event (.opening found.1 found.2) .inside
  | .inside, .macroStart => .refused .nestedMacro
  | .outside, .macroEnd => .refused .danglingMacroEnd
  | .inside, .macroEnd => .event .closing .outside
  | .outside, .macroReference => .refused .referenceOutsideMacro
  | .inside, .macroReference =>
    .decoded (Event.decodeMacroReference text) fun name => .event (.reference name) .inside
  | scope, .textSubstitution =>
    .decoded (Event.decodeSubstitution text) fun made => .event (.substitution made) scope
  | scope, .passthrough => .event (.passage text) scope
  | scope, .specialDirective =>
    .decoded (Event.decodeDirective text) fun given => .event (.directive given) scope

end Literate
