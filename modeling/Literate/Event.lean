/-
This file defines what a document says, piece by piece: the events of a run. Beside
every event stands its spelling, the way it is written in a document. Reading a
document and spelling its events are two sides of one format, and most of what
can be said about documents relates the two.
-/

import Literate.Text

namespace Literate

/-! ### Names and their kinds -/

/-- What a macro is for, told by the front part of its name. -/
inductive MacroKind where
  /-- An ordinary name, also one whose front part is not a known kind. -/
  | plain
  /-- The contents of a file, `FILE:name`. -/
  | file
  /-- A named section, `SECTION:name`. -/
  | sectional
  /-- The root of a document, `*`. -/
  | root
  deriving DecidableEq

/-- The name of the root macro. -/
def rootName : Text := ['*']

namespace MacroKind

/-- The name of a kind in traces. -/
def label : MacroKind → String
  | .plain => "default"
  | .file => "file"
  | .sectional => "section"
  | .root => "root"

/-- What is written in front of a name of this kind. -/
def marker : MacroKind → Text
  | .plain => []
  | .file => Text.ofString "FILE:"
  | .sectional => Text.ofString "SECTION:"
  | .root => []

end MacroKind

/-! ### Substitutions and directives -/

/-- A place to be filled in, or the value for such a place. -/
inductive Substitution where
  /-- A place named by its key, `%[key]%`. -/
  | placeholder (key : Text)
  /-- A value for a key, `%[key=value]%`. -/
  | assignment (key value : Text)
  deriving DecidableEq

namespace Substitution

/-- The key of a substitution. -/
def key : Substitution → Text
  | .placeholder key => key
  | .assignment key _ => key

/-- The value of an assignment. -/
def value? : Substitution → Option Text
  | .placeholder _ => none
  | .assignment _ value => some value

/-- The name of the two forms in traces. -/
def label : Substitution → String
  | .placeholder _ => "default"
  | .assignment _ _ => "assignment"

/-- What stands between the delimiters of a substitution. -/
def inner : Substitution → Text
  | .placeholder key => key
  | .assignment key value => key ++ '=' :: value

end Substitution

/-- An instruction to the reader of a document. -/
inductive Directive where
  /-- Go on with another document, found by its path, `#[include=path]`. -/
  | inclusion (path : Text)
  /-- The language of what follows, `#[language=name]`. -/
  | language (name : Text)
  deriving DecidableEq

namespace Directive

/-- The key that a directive is written with. -/
def key : Directive → String
  | .inclusion _ => "include"
  | .language _ => "language"

/-- What a directive is about. -/
def value : Directive → Text
  | .inclusion path => path
  | .language name => name

end Directive

/-! ### Events -/

/-- One piece of a document as its reader meets it. -/
inductive Event where
  /-- Text that is part of no delimiter. -/
  | passage (text : Text)
  /-- The start of a macro body. -/
  | opening (kind : MacroKind) (name : Text)
  /-- The end of a macro body. -/
  | closing
  /-- A reference to a macro from inside a body. -/
  | reference (name : Text)
  /-- A substitution. -/
  | substitution (made : Substitution)
  /-- A directive. -/
  | directive (given : Directive)
  deriving DecidableEq

/-- The reference to a macro as it is written in a document. -/
def referenceSpelling (name : Text) : Text := '<' :: '<' :: name ++ ['>', '>']

/-- The way an event is written in a document. -/
def Event.spelling : Event → Text
  | .passage text => text
  | .opening kind name => '<' :: '<' :: kind.marker ++ name ++ ['>', '>', '=']
  | .closing => ['>', '>', '@', '<', '<']
  | .reference name => referenceSpelling name
  | .substitution made => '%' :: '[' :: made.inner ++ [']', '%']
  | .directive given => '#' :: '[' :: Text.ofString given.key ++ '=' :: given.value ++ [']']

/-- The document that consists of the spellings of a list of events. -/
def Event.document (events : List Event) : Text := events.flatMap Event.spelling

end Literate
