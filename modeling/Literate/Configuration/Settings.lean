/-
This file turns settings into a configuration. The settings of a file are laid over
the standard ones, names being compared without regard to case; then every setting
must have the form that is expected of it. A setting that is a text may also be
given as a number or a truth value, which is then written out.
-/

import Literate.Configuration
import Literate.Configuration.Setting
import Literate.FileTree.Error
import Literate.Text.Quoted

namespace Literate

/-- Why there is no configuration. -/
inductive ConfigurationError where
  /-- The file is not valid. -/
  | unparsable (file : Text)
  /-- There is no such file. -/
  | notFound (name : Text)
  /-- The file could not be read. -/
  | unreadable (reason : FileError)
  /-- A value has another form than expected. -/
  | mismatch (found expected : Text)
  /-- A list has too few items to stand for a table. -/
  | tooShort (count : Nat) (expected : Text)
  /-- A setting that is needed is not there. -/
  | absent (name : Text)
  /-- There is no policy of that name. -/
  | unknownPolicy (name : Text)
  /-- The policy is given by something that is no name. -/
  | malformedPolicy
  /-- A compound value stands where a text is expected. -/
  | notText (found key : Text) (file : Option Text)
  deriving DecidableEq

namespace ConfigurationError

/-- Words about a value that has the wrong form. -/
def invalidType (found expected : Text) : Text :=
  Text.ofString "invalid type: " ++ found ++ Text.ofString ", expected " ++ expected

/-- The message of an error. -/
def message : ConfigurationError → Text
  | .unparsable file => Text.ofString "invalid configuration in " ++ file
  | .notFound name =>
    Text.ofString "configuration file \"" ++ name ++ Text.ofString "\" not found"
  | .unreadable reason => reason.message
  | .mismatch found expected => invalidType found expected
  | .tooShort count expected =>
    Text.ofString "invalid length " ++ Text.ofNat count ++ Text.ofString ", expected " ++ expected
  | .absent name => Text.ofString "missing field `" ++ name ++ ['\x60']
  | .unknownPolicy name =>
    Text.ofString "enum IncludePolicy does not have variant constructor " ++ name
  | .malformedPolicy =>
    Text.ofString "value of enum IncludePolicy should be represented by either string or table" ++
      Text.ofString " with exactly one key"
  | .notText found key file =>
    invalidType found (Text.ofString "a string") ++ Text.ofString " for key `" ++ key ++ ['\x60'] ++
      file.elim [] fun file => Text.ofString " in " ++ file

end ConfigurationError

namespace Settings

/-! ### The settings of a file over the standard ones -/

/-- The standard settings as a table. -/
def standard : Setting :=
  let table (members : List (String × Setting)) : Setting :=
    .table false (members.map fun entry => (Text.ofString entry.1, entry.2))
  table [
    ("includes", table [
      ("search_paths", .list false []),
      ("policy", .string (Text.ofString "first-match"))]),
    ("tangle", table [("default_root", .string rootName)]),
    ("extract", table [("output_suffix", .string Configuration.standard.outputSuffix)])]

/-- The standard settings with those of a file laid over them. Every key of the file is a path. -/
def withFile (settings : List (Text × Toml.Value)) : Setting :=
  settings.foldl (fun old entry =>
    (Setting.ofValue entry.2).assign (SettingStep.ofKey entry.1) old) standard

/-! ### Forms -/

/-- A number between marks. -/
def marked (words : String) (written : Text) : Text :=
  Text.ofString words ++ '\x60' :: written ++ ['\x60']

/-- A whole number in decimal digits. -/
def integerText (value : Int) : Text :=
  if value < 0 then '-' :: Text.ofNat value.natAbs else Text.ofNat value.natAbs

/-- A floating-point number that shows that it is one. -/
def pointed (value : Binary64) : Text :=
  let written := value.display
  match value with
  | .finite _ _ _ => if '.' ∈ written then written else written ++ ['.', '0']
  | _ => written

/-- A description of a setting in a message. -/
def describe : Setting → Text
  | .blank => Text.ofString "unit value"
  | .string text => Text.ofString "string " ++ Text.quoted text
  | .integer value => marked "integer " (integerText value)
  | .float value => marked "floating point " (pointed value)
  | .boolean true => marked "boolean " (Text.ofString "true")
  | .boolean false => marked "boolean " (Text.ofString "false")
  | .list _ _ => Text.ofString "sequence"
  | .table _ _ => Text.ofString "map"

/-- Where a setting stands: the file that was read, and its key. -/
structure Place where
  file : Text
  key : Text

/-- The place of a member of a table. -/
def Place.member (place : Place) (name : String) : Place :=
  { place with key := place.key ++ '.' :: Text.ofString name }

/-- The place of an item of a list. -/
def Place.item (place : Place) (index : Nat) : Place :=
  { place with key := place.key ++ '[' :: Text.ofNat index ++ [']'] }

/-- The error of a setting that is no text. The file is named if it holds the setting as it is. -/
def notText (place : Place) (isWritten : Bool) (setting : Setting) : ConfigurationError :=
  .notText (describe setting) place.key (if isWritten then some place.file else none)

/-- A setting that is a text. -/
def textAt (place : Place) : Setting → Except ConfigurationError Text
  | .blank => .error (notText place false .blank)
  | .string text => .ok text
  | .integer value => .ok (integerText value)
  | .float value => .ok value.display
  | .boolean true => .ok (Text.ofString "true")
  | .boolean false => .ok (Text.ofString "false")
  | .list isWritten items => .error (notText place isWritten (.list isWritten items))
  | .table isWritten members => .error (notText place isWritten (.table isWritten members))

/-- A setting that is a list of texts. -/
def textsAt (place : Place) : Setting → Except ConfigurationError (List Text)
  | .list _ items => items.zipIdx.mapM fun item => textAt (place.item item.2) item.1
  | other => .error (.mismatch (describe other) (Text.ofString "a sequence"))

/-- The policy of a name, compared without regard to case. -/
def policyNamed (name : Text) : Except ConfigurationError IncludePolicy :=
  match IncludePolicy.ofName? (Text.lowered name) with
  | some policy => .ok policy
  | none => .error (.unknownPolicy name)

/-- A setting that is a policy: its name, or a table with that single name. -/
def policyAt : Setting → Except ConfigurationError IncludePolicy
  | .string name => policyNamed name
  | .table _ [(name, _)] => policyNamed name
  | _ => .error .malformedPolicy

/-- The values of named settings with their places, from a table by name or from a list by
position. -/
def fieldsOf (place : Place) (title : String) (names : List String) (setting : Setting) :
    Except ConfigurationError (List (Place × Setting)) :=
  let expected := Text.ofString "struct " ++ Text.ofString title
  match setting with
  | .table _ members =>
    names.mapM fun name =>
      match members.lookup (Text.ofString name) with
      | some found => .ok (place.member name, found)
      | none => .error (.absent (Text.ofString name))
  | .list _ items => .ok ((items.take names.length).zipIdx.map fun item =>
      (place.item item.2, item.1))
  | other => .error (.mismatch (describe other) expected)

/-- The error of a list that is too short for the settings it stands for. -/
def tooShort (title : String) (names : List String) (found : List (Place × Setting)) :
    ConfigurationError :=
  .tooShort found.length (Text.ofString "struct " ++ Text.ofString title ++
    Text.ofString " with " ++ Text.ofNat names.length ++
    Text.ofString (if names.length = 1 then " element" else " elements"))

/-- The settings for inclusions: the search paths and the policy. -/
def includesAt (place : Place) (setting : Setting) :
    Except ConfigurationError (List Text × IncludePolicy) := do
  let names := ["search_paths", "policy"]
  match ← fieldsOf place "IncludesConfig" names setting with
  | [] => throw (tooShort "IncludesConfig" names [])
  | paths :: rest =>
    let searchPaths ← textsAt paths.1 paths.2
    match rest with
    | [] => throw (tooShort "IncludesConfig" names [paths])
    | policy :: _ => return (searchPaths, ← policyAt policy.2)

/-- A table with a single setting that is a text. -/
def singleTextAt (place : Place) (title name : String) (setting : Setting) :
    Except ConfigurationError Text := do
  match ← fieldsOf place title [name] setting with
  | [] => throw (tooShort title [name] [])
  | found :: _ => textAt found.1 found.2

/-- The configuration that a table of settings, read from a file, describes. -/
def configuration (file : Text) (settings : Setting) :
    Except ConfigurationError Configuration := do
  let part (name : String) : Except ConfigurationError (Place × Setting) :=
    match settings.asTable.2.lookup (Text.ofString name) with
    | some found => .ok (⟨file, Text.ofString name⟩, found)
    | none => .error (.absent (Text.ofString name))
  let inclusion ← part "includes"
  let (searchPaths, policy) ← includesAt inclusion.1 inclusion.2
  let tangle ← part "tangle"
  let defaultRoot ← singleTextAt tangle.1 "TangleConfig" "default_root" tangle.2
  let extract ← part "extract"
  let outputSuffix ← singleTextAt extract.1 "ExtractConfig" "output_suffix" extract.2
  return { searchPaths, policy, defaultRoot, outputSuffix }

end Settings

end Literate
